import VaultLocator.AuditTrail
import VaultLocator.Proofs.Json.RoundTrip
import VaultLocator.Proofs.Json.SingleLine
import VaultLocator.Proofs.LastWrite

/-!
# Lines of the trail cannot be forged

The texts of an entry come from whoever asks, and they are entered before anything is known of them.
Still they say nothing but themselves when the line of the entry is read: the line does not break,
and read as JSON it gives all that was entered and nothing else.

What was entered are writes under keys, one after the other. An entry is built by one of the
constructors, which make some writes of their own, and by annotations, which make one each
(`VaultLocator.AuditEntry.Built`). Under a key the line shows the last write
(`VaultLocator.Dict.LastWrite`). This rests on three facts of which each is about one step of the
way: the details are the dictionary of the writes (`VaultLocator.AuditEntry.Built.details_eq`), a
dictionary is written in the order in which it is read (`VaultLocator.AuditEntry.read?_toLine`),
and a written value is a single line (`VaultLocator.Json.singleLine_chars`).

So a line determines the entry that it is of, its identifier and its time
(`VaultLocator.AuditEntry.eq_of_toLine_eq`): no text can be chosen to make one entry pass for
another.
-/

namespace VaultLocator

theorem Severity.spelling_injective : Function.Injective Severity.spelling := by
  intro severity severity'
  cases severity <;> cases severity' <;> decide

theorem AuditKind.spelling_injective : Function.Injective AuditKind.spelling := by
  intro kind kind'
  cases kind <;> cases kind' <;> decide

namespace AuditEntry

variable {entry entry' : AuditEntry} {writes : List (String × String)}

/-! ### How entries are built -/

/-- **An entry is built** by some writes under keys: those of the constructor that it starts with,
and then one for each annotation. -/
inductive Built : AuditEntry → List (String × String) → Prop
  /-- From its parts, without details. -/
  | new (kind : AuditKind) (severity : Severity) (message service : String) :
    Built ⟨kind, severity, message, service, Dict.empty⟩ []
  /-- For someone who asks for what is at a place. -/
  | attempt (service target : String) : Built (attempt service target) [("target", target)]
  /-- For what was given. -/
  | granted (service target : String) (unmasked : Bool) :
    Built (granted service target unmasked)
      [("target", target), ("unmasked", if unmasked then "true" else "false")]
  /-- For what was not given. -/
  | denied (service target reason : String) :
    Built (denied service target reason) [("target", target), ("reason", reason)]
  /-- For what failed. -/
  | failure (service message : String) : Built (failure service message) []
  /-- For a notice. -/
  | notice (service message : String) : Built (notice service message) []
  /-- From another entry, with one more detail. -/
  | annotate {entry : AuditEntry} {writes : List (String × String)} (h : Built entry writes)
    (name text : String) : Built (entry.annotate name text) (writes ++ [(name, text)])

/-- The details of an entry are the writes, one after the other. -/
theorem Built.details_eq (h : Built entry writes) : entry.details = Dict.ofList writes := by
  induction h with
  | new => rfl
  | attempt => rfl
  | granted => rfl
  | denied => rfl
  | failure => rfl
  | notice => rfl
  | annotate h name text ih =>
    rw [Dict.ofList_append_singleton, ← ih]
    rfl

/-! ### Reading a line -/

/-- The details as they are written. -/
def detailMembers (entry : AuditEntry) : List (String × Json) :=
  entry.details.entries.map fun detail => (detail.1, Json.str detail.2)

theorem sorted_detailMembers (entry : AuditEntry) :
    entry.detailMembers.Pairwise (·.1 < ·.1) :=
  List.pairwise_map.mpr entry.details.sorted

theorem mem_detailMembers_iff {key : String} {value : Json} :
    (key, value) ∈ entry.detailMembers ↔
      ∃ text, value = .str text ∧ entry.details.get? key = some text := by
  rw [detailMembers, List.mem_map]
  constructor
  · rintro ⟨⟨name, text⟩, hdetail, hmember⟩
    cases hmember
    exact ⟨text, rfl, Dict.mem_entries_iff.mp hdetail⟩
  · rintro ⟨text, rfl, hget⟩
    exact ⟨(key, text), Dict.mem_entries_iff.mpr hget, rfl⟩

theorem lossless_detailsJson (entry : AuditEntry) : entry.detailsJson.Lossless := by
  refine .obj fun member hmember => ?_
  obtain ⟨detail, -, rfl⟩ := List.mem_map.mp hmember
  exact .str detail.2

theorem lossless_toJson (entry : AuditEntry) (id time : String) :
    (entry.toJson id time).Lossless := by
  refine .obj ?_
  simp only [List.forall_mem_cons]
  exact ⟨.str id, .str _, .str _, .str _, .str _, lossless_detailsJson entry, .str time,
    fun _ h => nomatch h⟩

/-- The details are written in order, and so are read as they are. -/
theorem canonical_detailsJson (entry : AuditEntry) :
    Json.canonical entry.detailsJson = .obj entry.detailMembers := by
  have hmembers (details : List (String × String)) :
      Json.canonicalMembers (details.map fun detail => (detail.1, Json.str detail.2)) =
        details.map fun detail => (detail.1, Json.str detail.2) := by
    induction details with
    | nil => rfl
    | cons detail details ih => rw [List.map_cons, Json.canonicalMembers, Json.canonical, ih]
  rw [detailsJson, Json.canonical, hmembers]
  exact congrArg Json.obj (Dict.entries_ofList (sorted_detailMembers entry))

/-- **What a line is read as**: the members of an entry, in the order of their keys. -/
theorem read?_toLine (entry : AuditEntry) (id time : String) :
    Json.read? (entry.toLine id time) =
      some (.obj [("event_type", .str entry.kind.spelling), ("id", .str id),
        ("level", .str entry.severity.spelling), ("message", .str entry.message),
        ("metadata", .obj entry.detailMembers), ("service_id", .str entry.service),
        ("timestamp", .str time)]) := by
  rw [toLine, Json.read?_render (lossless_toJson entry id time), toJson]
  simp only [Json.canonical, Json.canonicalMembers, canonical_detailsJson]
  simp only [Json.object, Dict.ofList, List.foldl_cons, List.foldl_nil, Dict.insert, Dict.empty,
    Dict.enter, String.reduceLT, String.reduceEq, reduceIte]

theorem details_eq_of_detailMembers_eq (h : entry.detailMembers = entry'.detailMembers) :
    entry.details = entry'.details := by
  have hinjective (detail detail' : String × String)
      (h : (detail.1, Json.str detail.2) = (detail'.1, Json.str detail'.2)) : detail = detail' := by
    obtain ⟨name, text⟩ := detail
    cases h
    rfl
  have hentries : entry.details.entries = entry'.details.entries :=
    (List.map_inj_right hinjective).mp h
  exact Dict.ext_get? fun key => congrArg (Dict.find? key) hentries

/-- **The line determines the entry**, its identifier and its time. -/
theorem eq_of_toLine_eq {id id' time time' : String}
    (h : entry.toLine id time = entry'.toLine id' time') :
    entry = entry' ∧ id = id' ∧ time = time' := by
  have hread := read?_toLine entry id time
  rw [h, read?_toLine] at hread
  simp only [Option.some.injEq, Json.obj.injEq, List.cons.injEq, Prod.mk.injEq, Json.str.injEq,
    true_and, and_true] at hread
  obtain ⟨hkind, hid, hseverity, hmessage, hdetails, hservice, htime⟩ := hread
  refine ⟨?_, hid.symm, htime.symm⟩
  obtain ⟨kind, severity, message, service, details⟩ := entry
  obtain rfl := AuditKind.spelling_injective hkind
  obtain rfl := Severity.spelling_injective hseverity
  obtain rfl : _ = details := details_eq_of_detailMembers_eq hdetails
  subst hmessage hservice
  rfl

/-- **Lines of the trail cannot be forged.** Whatever texts an entry is built of, its line has no
character before the blank, and read as JSON it is an object of the seven members of an entry: the
kind, the severity, the message and the service as they are, and as details an object in the order
of its keys that has the last write under each key and nothing else. -/
theorem line_unforgeable (h : Built entry writes) (id time : String) :
    SingleLine (entry.toLine id time).toList ∧
      ∃ details : List (String × Json),
        Json.read? (entry.toLine id time) =
          some (.obj [("event_type", .str entry.kind.spelling), ("id", .str id),
            ("level", .str entry.severity.spelling), ("message", .str entry.message),
            ("metadata", .obj details), ("service_id", .str entry.service),
            ("timestamp", .str time)]) ∧
        details.Pairwise (·.1 < ·.1) ∧
        ∀ key value, (key, value) ∈ details ↔
          ∃ text, value = .str text ∧ Dict.LastWrite writes key text := by
  constructor
  · rw [toLine, Json.render, String.toList_ofList]
    exact Json.singleLine_chars _
  · refine ⟨entry.detailMembers, read?_toLine entry id time, sorted_detailMembers entry,
      fun key value => ?_⟩
    rw [mem_detailMembers_iff, h.details_eq]
    simp only [Dict.get?_ofList_eq_some_iff]

/-- A target that would end its text, its line and the entry, and is then replaced by one that would
escape what follows it. -/
theorem line_unforgeable_samples :
    let entry := (denied "ksm" "A\"\n" "no").annotate "target" "\x01\\"
    Built entry [("target", "A\"\n"), ("reason", "no"), ("target", "\x01\\")] ∧
      SingleLine (entry.toLine "7" "now").toList ∧
      ∃ details : List (String × Json),
        Json.read? (entry.toLine "7" "now") =
          some (.obj [("event_type", .str "access_denied"), ("id", .str "7"),
            ("level", .str "WARN"), ("message", .str "Secret access denied"),
            ("metadata", .obj details), ("service_id", .str "ksm"), ("timestamp", .str "now")]) ∧
        ("target", .str "\x01\\") ∈ details ∧ ("target", .str "A\"\n") ∉ details := by
  have hbuilt := (Built.denied "ksm" "A\"\n" "no").annotate "target" "\x01\\"
  obtain ⟨hline, details, hread, -, hdetails⟩ := line_unforgeable hbuilt "7" "now"
  refine ⟨hbuilt, hline, details, hread, ?_, ?_⟩
  · exact (hdetails _ _).mpr ⟨_, rfl, [_, _], [], rfl, fun _ hwrite => nomatch hwrite⟩
  · intro hmem
    obtain ⟨text, htext, hlast⟩ := (hdetails _ _).mp hmem
    cases htext
    have hget := Dict.get?_ofList_eq_some_iff.mpr hlast
    exact absurd hget (by decide)

end AuditEntry

end VaultLocator
