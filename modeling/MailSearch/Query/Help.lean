import MailSearch.Json.Basic

/-!
# The operator reference

What a user can write in a query: `operatorHelp` lists the operators by category, each with a
description and an example.
-/

namespace MailSearch

open Json

/-- One entry of the reference. -/
structure OperatorHelp where
  operator : String
  description : String
  sample : String

/-- Entries that belong together. -/
structure HelpCategory where
  title : String
  operators : List OperatorHelp

/-- The reference, in the order in which it is shown. -/
def operatorHelp : List HelpCategory := [
  ⟨"From/To/Subject", [
    ⟨"from:", "Sender address contains", "from:alice@example.com"⟩,
    ⟨"to:", "A recipient address contains", "to:bob"⟩,
    ⟨"cc:", "A CC address contains", "cc:team@example.com"⟩,
    ⟨"bcc:", "A BCC address contains", "bcc:archive"⟩,
    ⟨"subject:", "Subject contains (quote phrases)", "subject:\"quarterly report\""⟩]⟩,
  ⟨"Status", [
    ⟨"is:read", "Messages you have read", "is:read"⟩,
    ⟨"is:unread", "Messages you have not read", "is:unread"⟩,
    ⟨"is:starred", "Starred messages (also is:star)", "is:starred"⟩,
    ⟨"is:important", "Messages marked important", "is:important"⟩,
    ⟨"in:", "Messages in a folder", "in:inbox"⟩,
    ⟨"label:", "Messages with a label", "label:work"⟩]⟩,
  ⟨"Attachments", [
    ⟨"has:attachment", "Messages with at least one attachment", "has:attachment"⟩,
    ⟨"filename:", "An attachment name contains (quote phrases)", "filename:report.pdf"⟩,
    ⟨"larger:", "An attachment larger than a size (K, M, G)", "larger:5M"⟩,
    ⟨"smaller:", "An attachment smaller than a size (K, M, G)", "smaller:100K"⟩]⟩,
  ⟨"Date", [
    ⟨"after:", "Sent on or after a date (YYYY-MM-DD or YYYY/MM/DD)", "after:2024-01-01"⟩,
    ⟨"before:", "Sent on or before a date (YYYY-MM-DD or YYYY/MM/DD)", "before:2024/06/30"⟩,
    ⟨"newer_than:", "Sent within the last N days, months or years", "newer_than:7d"⟩,
    ⟨"older_than:", "Sent more than N days, months or years ago", "older_than:1y"⟩]⟩,
  ⟨"Negation", [
    ⟨"-from:", "Exclude a sender", "-from:noreply"⟩,
    ⟨"-to:", "Exclude a recipient", "-to:list@example.com"⟩,
    ⟨"-subject:", "Exclude a subject", "-subject:newsletter"⟩,
    ⟨"-has:attachment", "Messages without attachments", "-has:attachment"⟩,
    ⟨"-is:", "Invert a status", "-is:read"⟩]⟩]

/-- An entry as an object. -/
def OperatorHelp.toJson (h : OperatorHelp) : Json :=
  object [
    ("operator", text h.operator),
    ("description", text h.description),
    ("example", text h.sample)]

/-- A category as an object. -/
def HelpCategory.toJson (c : HelpCategory) : Json :=
  object [("category", text c.title), ("operators", list (c.operators.map OperatorHelp.toJson))]

end MailSearch
