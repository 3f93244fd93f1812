import MailSearch.Query.Parsed

/-!
# Parsed queries in JSON

A parsed query as an object, with the operators' keywords for names where they have one.
-/

namespace MailSearch

open Json Calendar

/-- A point in time, or `null` for none. -/
def Json.ofTimestamp? (t : Option Timestamp) : Json := ofText? (t.map Timestamp.text)

/-- A byte count, or `null` for none. -/
def Json.ofSize? (n : Option UInt64) : Json := ofNat? (n.map UInt64.toNat)

/-- The values of each aspect under its keyword. -/
def AspectValues.fields (v : AspectValues) : List (String × Json) :=
  [("from", ofTexts v.sender),
    ("to", ofTexts v.recipient),
    ("subject", ofTexts v.subject),
    ("has", ofTexts v.has),
    ("is", ofTexts v.status)]

/-- A parsed query as an object. -/
def ParsedQuery.toJson (q : ParsedQuery) : Json :=
  object [
    ("from", ofTexts q.wanted.sender),
    ("to", ofTexts q.wanted.recipient),
    ("cc", ofTexts q.cc),
    ("bcc", ofTexts q.bcc),
    ("subject", ofTexts q.wanted.subject),
    ("has", ofTexts q.wanted.has),
    ("is", ofTexts q.wanted.status),
    ("in", ofTexts q.folders),
    ("label", ofTexts q.labels),
    ("filename", ofTexts q.filenames),
    ("before", ofTimestamp? q.before),
    ("after", ofTimestamp? q.after),
    ("olderThan", ofText? q.olderThan),
    ("newerThan", ofText? q.newerThan),
    ("larger", ofSize? q.larger),
    ("smaller", ofSize? q.smaller),
    ("textSearch", ofTexts q.texts),
    ("negations", object q.unwanted.fields),
    ("unparsed", ofTexts q.ignored)]

end MailSearch
