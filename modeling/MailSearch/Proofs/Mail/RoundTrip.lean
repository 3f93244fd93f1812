import MailSearch.Mail.Encoding
import MailSearch.Proofs.Calendar.ReadBack
import MailSearch.Proofs.Json.RoundTrip

/-!
# Mail in JSON reads back

* `Json.Record.ofJson?_object`: an object with the fields of a record is read as that record.
* `Attachment.ofJson?_toJson`: the JSON form of an attachment is read as it.
* `Message.ofJson?_toJson`: that of a message is read as the message with the regular time that is
  written like its own (`Message.carried`), so as it if its time is regular.
* `Message.exact_toJson`: no part of the form is a number kept as it was written.
-/

namespace MailSearch

open Calendar Json

namespace Json

/-- An object with the fields of a record is read as that record. -/
theorem Record.ofJson?_object {names : List String} {fields : List (String × Json)}
    (required : Nat) (h : fields.map Prod.fst = names) (hnodup : names.Nodup) :
    Record.ofJson? names required (object fields) = some ⟨fields⟩ := by
  have hknown : fields.filter (fun field => names.contains field.1) = fields := by
    rw [List.filter_eq_self]
    intro field hfield
    rw [List.contains_iff_mem, ← h]
    exact List.mem_map_of_mem hfield
  simp only [Record.ofJson?, hknown, h]
  rw [if_pos hnodup]

section Members

variable {α : Type} {name : String} {v : Json} {fields : List (String × Json)}
  {read : Json → Option α} {default x : α}

/-- A member that is found under its name is read. -/
theorem Record.need?_of_lookup (hlookup : fields.lookup name = some v) :
    Record.need? ⟨fields⟩ name read = read v := by
  rw [need?, hlookup, Option.bind_some]

theorem Record.need?_eq_some (hlookup : fields.lookup name = some v) (hread : read v = some x) :
    Record.need? ⟨fields⟩ name read = some x := by
  rw [need?_of_lookup hlookup, hread]

theorem Record.getD?_eq_some (hlookup : fields.lookup name = some v) (hread : read v = some x) :
    Record.getD? ⟨fields⟩ name read default = some x := by
  simp only [getD?, hlookup, hread]

theorem Record.opt?_ofText? {s : Option String} (hlookup : fields.lookup name = some (ofText? s)) :
    Record.opt? ⟨fields⟩ name asText? = some s := by
  refine Record.getD?_eq_some hlookup ?_
  cases s <;> rfl

end Members

end Json

theorem timestampOfJson?_text (t : Timestamp) :
    timestampOfJson? (text t.text) = some t.carried :=
  readTimestamp?_text t

/-! ## Attachments -/

theorem Attachment.exact_toJson (a : Attachment) : Exact a.toJson := by
  refine .object ?_
  simp only [List.forall_mem_cons]
  exact ⟨.text _, .text _, .text _, exact_ofText? _, .integer _, by simp⟩

theorem asWord?_toNat (n : UInt64) : asWord? (integer n.toNat) = some n.toNat := by
  have := n.toNat_lt
  rw [asWord?, if_pos (by omega)]
  rfl

theorem Attachment.ofJson?_toJson (a : Attachment) : Attachment.ofJson? a.toJson = some a := by
  have hrecord : ∀ fields, fields.map Prod.fst = memberNames →
      Record.ofJson? memberNames 5 (object fields) = some ⟨fields⟩ :=
    fun _ h => Record.ofJson?_object 5 h (by decide)
  unfold Attachment.ofJson? Attachment.toJson
  refine Option.bind_eq_some_iff.mpr ⟨_, hrecord _ rfl, ?_⟩
  refine Option.bind_eq_some_iff.mpr ⟨a.id, Record.need?_eq_some rfl rfl, ?_⟩
  refine Option.bind_eq_some_iff.mpr ⟨a.messageId, Record.need?_eq_some rfl rfl, ?_⟩
  refine Option.bind_eq_some_iff.mpr ⟨a.filename, Record.need?_eq_some rfl rfl, ?_⟩
  refine Option.bind_eq_some_iff.mpr ⟨a.contentType, Record.opt?_ofText? rfl, ?_⟩
  refine Option.bind_eq_some_iff.mpr ⟨_, Record.need?_eq_some rfl (asWord?_toNat _), ?_⟩
  simp only [Nat.toUInt64_eq, UInt64.ofNat_toNat, Option.pure_def]

theorem attachmentsOfJson?_map (as : List Attachment) :
    attachmentsOfJson? (list (as.map Attachment.toJson)) = some as := by
  show (as.map Attachment.toJson).mapM Attachment.ofJson? = some as
  induction as with
  | nil => rfl
  | cons a as ih =>
    rw [List.map_cons, List.mapM_cons, ih, Attachment.ofJson?_toJson]
    rfl

/-! ## Messages -/

/-- The message with the regular time that is written like its own. -/
def Message.carried (m : Message) : Message := { m with sentAt := m.sentAt.carried }

theorem Message.carried_of_isRegular {m : Message} (h : m.sentAt.IsRegular) : m.carried = m := by
  rw [carried, Timestamp.carried_of_isRegular h]

theorem Message.ofJson?_toJson (m : Message) : Message.ofJson? m.toJson = some m.carried := by
  unfold Message.ofJson? Message.toJson
  have hrecord : ∀ fields, fields.map Prod.fst = memberNames →
      Record.ofJson? memberNames 18 (object fields) = some ⟨fields⟩ :=
    fun _ h => Record.ofJson?_object 18 h (by decide)
  refine Option.bind_eq_some_iff.mpr ⟨_, hrecord _ rfl, ?_⟩
  refine Option.bind_eq_some_iff.mpr ⟨m.id, Record.need?_eq_some rfl rfl, ?_⟩
  refine Option.bind_eq_some_iff.mpr ⟨m.userId, Record.need?_eq_some rfl rfl, ?_⟩
  refine Option.bind_eq_some_iff.mpr ⟨m.accountId, Record.need?_eq_some rfl rfl, ?_⟩
  refine Option.bind_eq_some_iff.mpr ⟨m.threadId, Record.opt?_ofText? rfl, ?_⟩
  refine Option.bind_eq_some_iff.mpr ⟨m.subject, Record.opt?_ofText? rfl, ?_⟩
  refine Option.bind_eq_some_iff.mpr ⟨m.fromAddress, Record.opt?_ofText? rfl, ?_⟩
  refine Option.bind_eq_some_iff.mpr ⟨m.fromName, Record.opt?_ofText? rfl, ?_⟩
  refine Option.bind_eq_some_iff.mpr ⟨m.toAddresses,
    Record.need?_eq_some rfl (asTexts?_ofTexts _), ?_⟩
  refine Option.bind_eq_some_iff.mpr ⟨m.ccAddresses,
    Record.need?_eq_some rfl (asTexts?_ofTexts _), ?_⟩
  refine Option.bind_eq_some_iff.mpr ⟨m.bccAddresses,
    Record.need?_eq_some rfl (asTexts?_ofTexts _), ?_⟩
  refine Option.bind_eq_some_iff.mpr ⟨m.bodyText, Record.opt?_ofText? rfl, ?_⟩
  refine Option.bind_eq_some_iff.mpr ⟨m.bodyHtml, Record.opt?_ofText? rfl, ?_⟩
  refine Option.bind_eq_some_iff.mpr ⟨m.sentAt.carried,
    Record.need?_eq_some rfl (timestampOfJson?_text _), ?_⟩
  refine Option.bind_eq_some_iff.mpr ⟨m.isRead, Record.need?_eq_some rfl rfl, ?_⟩
  refine Option.bind_eq_some_iff.mpr ⟨m.isStarred, Record.need?_eq_some rfl rfl, ?_⟩
  refine Option.bind_eq_some_iff.mpr ⟨m.isImportant, Record.need?_eq_some rfl rfl, ?_⟩
  refine Option.bind_eq_some_iff.mpr ⟨m.folder, Record.opt?_ofText? rfl, ?_⟩
  refine Option.bind_eq_some_iff.mpr ⟨m.labels, Record.need?_eq_some rfl (asTexts?_ofTexts _), ?_⟩
  refine Option.bind_eq_some_iff.mpr ⟨m.attachments,
    Record.getD?_eq_some rfl (attachmentsOfJson?_map _), ?_⟩
  rfl

theorem Message.exact_toJson (m : Message) : Exact m.toJson := by
  have hattachments : Exact (list (m.attachments.map Attachment.toJson)) := by
    refine .list ?_
    simpa using fun a _ => a.exact_toJson
  refine .object ?_
  simp only [List.forall_mem_cons]
  exact ⟨.text _, .text _, .text _, exact_ofText? _, exact_ofText? _, exact_ofText? _,
    exact_ofText? _, exact_ofTexts _, exact_ofTexts _, exact_ofTexts _, exact_ofText? _,
    exact_ofText? _, .text _, .bool _, .bool _, .bool _, exact_ofText? _, exact_ofTexts _,
    hattachments, by simp⟩

theorem messagesOfJson?_map (ms : List Message) :
    messagesOfJson? (list (ms.map Message.toJson)) = some (ms.map Message.carried) := by
  show (ms.map Message.toJson).mapM Message.ofJson? = some (ms.map Message.carried)
  induction ms with
  | nil => rfl
  | cons m ms ih =>
    rw [List.map_cons, List.mapM_cons, ih, Message.ofJson?_toJson]
    rfl

end MailSearch
