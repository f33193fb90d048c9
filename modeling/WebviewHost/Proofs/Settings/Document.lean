import WebviewHost.Proofs.Json.Accepted
import WebviewHost.Settings.Store

/-!
# Loaded documents

What a settings document is like when it has been read from a file: its keys are ordered and no
default member is missing.
-/

set_option autoImplicit false

namespace WebviewHost.Settings

open WebviewHost.Members (get? contains insert)

theorem get?_withDefaults (document : Members) (key : String) :
    get? (withDefaults document) key = (get? document key).or (get? defaults key) := by
  have general : ∀ (entries : List (String × Json)), Members.Ordered entries →
      ∀ start : Members,
        get? (entries.foldl (fun document entry =>
            if contains document entry.1 then document else insert entry.1 entry.2 document) start)
          key = (get? start key).or (get? entries key) := by
    intro entries
    induction entries with
    | nil => intro _ start; simp [get?]
    | cons entry rest ih =>
        intro ordered start
        obtain ⟨name, value⟩ := entry
        rw [List.foldl_cons, ih (Members.ordered_cons.mp ordered).2]
        by_cases same : name = key
        · subst same
          cases held : get? start name with
          | none => simp [contains, held, Members.get?_insert, get?]
          | some old => simp [contains, held]
        · split
          · simp [get?, same]
          · simp [Members.get?_insert, get?, same, Ne.symm same]
  exact general defaults defaults_ordered document

theorem ordered_withDefaults {document : Members} (ordered : document.Ordered) :
    (withDefaults document).Ordered := by
  have general : ∀ (entries : List (String × Json)) (start : Members), start.Ordered →
      Members.Ordered (entries.foldl (fun document entry =>
        if contains document entry.1 then document else insert entry.1 entry.2 document) start) := by
    intro entries
    induction entries with
    | nil => exact fun start ordered => ordered
    | cons entry rest ih =>
        intro start ordered
        rw [List.foldl_cons]
        split
        · exact ih start ordered
        · exact ih _ (ordered.insert entry.1 entry.2)
  exact general defaults document ordered

theorem mem_withDefaults {document : Members} (ordered : document.Ordered)
    {entry : String × Json} (member : entry ∈ withDefaults document) :
    entry ∈ document ∨ entry ∈ defaults := by
  have held := (ordered_withDefaults ordered).get?_eq_some_of_mem member
  rw [get?_withDefaults] at held
  cases own : get? document entry.1 with
  | some value =>
      rw [own] at held
      cases held
      exact .inl (Members.mem_of_get?_eq_some own)
  | none =>
      rw [own] at held
      exact .inr (Members.mem_of_get?_eq_some held)

theorem withDefaults_eq_self {document : Members} (ordered : document.Ordered)
    (complete : ∀ key, contains defaults key = true → contains document key = true) :
    withDefaults document = document := by
  refine (ordered_withDefaults ordered).eq_of_get?_eq ordered fun key => ?_
  rw [get?_withDefaults]
  cases held : get? document key with
  | some value => rfl
  | none =>
      cases default : get? defaults key with
      | none => rfl
      | some value => simpa [contains, held, default] using complete key

/-- A document as a store holds it. -/
structure Loaded (document : Members) : Prop where
  ordered : document.Ordered
  complete : ∀ key, contains defaults key = true → contains document key = true

theorem loaded_defaults : Loaded defaults := ⟨defaults_ordered, fun _ present => present⟩

/-- What a file stands for: an object with the defaults it lacks, or the defaults alone. -/
theorem readDocument_cases (content : ByteArray) :
    (∃ document, Json.readBytes? content = some (.object document) ∧
      readDocument content = withDefaults document) ∨ readDocument content = defaults := by
  unfold readDocument
  split
  · rename_i document read
    exact .inl ⟨document, read, rfl⟩
  · exact .inr rfl

theorem loaded_readDocument (content : ByteArray) : Loaded (readDocument content) := by
  rcases readDocument_cases content with ⟨document, read, same⟩ | same
  · rw [same]
    refine ⟨ordered_withDefaults (Json.accepted_of_readBytes? read).ordered.1, fun key present => ?_⟩
    unfold contains at present ⊢
    rw [get?_withDefaults, Option.isSome_or, present, Bool.or_true]
  · rw [same]
    exact loaded_defaults

theorem Loaded.insert {document : Members} (loaded : Loaded document) (key : String)
    (value : Json) : Loaded (Members.insert key value document) :=
  ⟨loaded.ordered.insert key value, fun other present => by
    rw [Members.contains_insert, loaded.complete other present, Bool.or_true]⟩

end WebviewHost.Settings
