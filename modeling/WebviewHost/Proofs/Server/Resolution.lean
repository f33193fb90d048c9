import WebviewHost.Proofs.Files.Path
import WebviewHost.Proofs.Server.StaticFiles
import WebviewHost.Proofs.Text.Percent

/-!
# Which paths resolve

A raw path is refused for one of its segments or stands for the texts that its segments are read as.
Every file below the root has a raw path, and however its names are spelled, it is this file.
-/

set_option autoImplicit false

namespace WebviewHost.Server

open WebviewHost.Files (joinPath splitAt splitAt_cons_self splitAt_intercalate)
open WebviewHost.Text (Decodes IsEscape IsEscapeChar Reads Spells decodes_iff encodeUtf8
  exists_spells percentDecode? percentDecode?_eq_some_iff)

/-! ## Segments -/

/-- A text that is no step down: the parent directory, or one with a separator or a NUL in it. -/
def LeadsAway (text : String) : Prop :=
  text = ".." ∨ ∃ c ∈ text.toList, c = '/' ∨ c = '\\' ∨ c = '\x00'

theorem leadsAway_iff {text : String} :
    LeadsAway text ↔
      text = ".." ∨ text.toList.any (fun c => c = '/' || c = '\\' || c = '\x00') = true := by
  simp [LeadsAway, or_assoc]

instance (text : String) : Decidable (LeadsAway text) := decidable_of_iff _ leadsAway_iff.symm

def StaysPut (text : String) : Prop := text = "" ∨ text = "."

instance (text : String) : Decidable (StaysPut text) := inferInstanceAs (Decidable (_ ∨ _))

/-- A segment that resolves to nothing. -/
inductive Refused (raw : List Char) : Prop where
  | malformed {bytes : List UInt8} : Decodes raw bytes → (∀ text, encodeUtf8 text ≠ bytes) →
      Refused raw
  | leadsAway {text : String} : Reads raw text → LeadsAway text → Refused raw

theorem StaysPut.not_leadsAway {text : String} (stays : StaysPut text) : ¬LeadsAway text := by
  rcases stays with rfl | rfl <;> decide

theorem segment_of_reads {raw : List Char} {text : String} (reads : Reads raw text) :
    segment raw = if StaysPut text then .skipped
      else if LeadsAway text then .refused else .name text := by
  unfold segment
  rw [percentDecode?_eq_some_iff.mpr reads]
  refine if_congr ?_ rfl (if_congr ?_ rfl rfl)
  · simp [StaysPut]
  · simp [leadsAway_iff]

theorem exists_reads_of_not_refused {raw : List Char} (accepted : ¬Refused raw) :
    ∃ text, Reads raw text ∧ ¬LeadsAway text := by
  cases decoded : percentDecode? raw with
  | none =>
      refine absurd (.malformed (decodes_iff.mpr rfl) fun text same => ?_) accepted
      have read := percentDecode?_eq_some_iff.mpr (decodes_iff.mpr same.symm)
      rw [decoded] at read
      cases read
  | some text =>
      have reads := percentDecode?_eq_some_iff.mp decoded
      exact ⟨text, reads, fun away => accepted (.leadsAway reads away)⟩

theorem segment_eq_refused_iff {raw : List Char} : segment raw = .refused ↔ Refused raw := by
  constructor
  · intro refused
    by_contra accepted
    obtain ⟨text, reads, safe⟩ := exists_reads_of_not_refused accepted
    rw [segment_of_reads reads, if_neg safe] at refused
    split at refused <;> cases refused
  · rintro (⟨decodes, malformed⟩ | ⟨reads, away⟩)
    · cases decoded : percentDecode? raw with
      | none =>
          unfold segment
          rw [decoded]
      | some text =>
          have reads := decodes_iff.mp (percentDecode?_eq_some_iff.mp decoded)
          exact absurd (reads.symm.trans (decodes_iff.mp decodes)) (malformed text)
    · rw [segment_of_reads reads, if_neg fun stays => stays.not_leadsAway away, if_pos away]

/-! ## Paths -/

theorem namesOf?_eq_none_iff {parts : List (List Char)} :
    namesOf? parts = none ↔ ∃ raw ∈ parts, Refused raw := by
  induction parts with
  | nil => simp [namesOf?]
  | cons raw rest ih =>
      rw [List.exists_mem_cons_iff, ← ih, ← segment_eq_refused_iff]
      rw [namesOf?.eq_2]
      cases segment raw <;> simp

theorem reads_of_namesOf? {parts : List (List Char)} {names : List String}
    (read : namesOf? parts = some names) :
    ∃ texts, List.Forall₂ Reads parts texts ∧ names = texts.filter fun text => ¬StaysPut text := by
  induction parts generalizing names with
  | nil =>
      cases read
      exact ⟨[], .nil, rfl⟩
  | cons raw rest ih =>
      have accepted : ¬Refused raw := fun refused => by
        have refusal : namesOf? (raw :: rest) = none :=
          namesOf?_eq_none_iff.mpr ⟨raw, List.mem_cons_self, refused⟩
        rw [read] at refusal
        cases refusal
      obtain ⟨text, reads, safe⟩ := exists_reads_of_not_refused accepted
      unfold namesOf? at read
      rw [segment_of_reads reads, if_neg safe] at read
      by_cases stays : StaysPut text
      · rw [if_pos stays] at read
        obtain ⟨texts, others, rfl⟩ := ih read
        exact ⟨text :: texts, .cons reads others, by simp [stays]⟩
      · rw [if_neg stays] at read
        obtain ⟨more, restRead, rfl⟩ := Option.map_eq_some_iff.mp read
        obtain ⟨texts, others, rfl⟩ := ih restRead
        exact ⟨text :: texts, .cons reads others, by simp [stays]⟩

/-! ## Spelled paths -/

def SpelledBy (names : List String) (segments : List (List Char)) : Prop :=
  List.Forall₂ (fun name raw => Spells name.toList raw) names segments

theorem IsComponent.segment_of_spells {name : String} {raw : List Char}
    (component : IsComponent name) (spells : Spells name.toList raw) :
    segment raw = .name name := by
  have reads := spells.reads
  rw [String.ofList_toList] at reads
  rw [segment_of_reads reads, if_neg, if_neg]
  · rintro (dots | ⟨c, member, separates⟩)
    · exact component.notDots dots
    · obtain ⟨slash, backslash, nul⟩ := component.undivided c member
      rcases separates with rfl | rfl | rfl
      · exact slash rfl
      · exact backslash rfl
      · exact nul rfl
  · rintro (empty | dot)
    · exact component.notEmpty empty
    · exact component.notDot dot

theorem namesOf?_of_spelledBy {names : List String} {segments : List (List Char)}
    (spelled : SpelledBy names segments) (components : ∀ name ∈ names, IsComponent name) :
    namesOf? segments = some names := by
  induction spelled with
  | nil => rfl
  | cons spells _ ih =>
      obtain ⟨first, others⟩ := List.forall_mem_cons.mp components
      unfold namesOf?
      rw [first.segment_of_spells spells]
      show Option.map _ _ = _
      rw [ih others]
      rfl

theorem not_slash_of_spells {name : String} {raw : List Char} (component : IsComponent name)
    (spells : Spells name.toList raw) : '/' ∉ raw := by
  intro member
  rcases spells.mem '/' member with own | escape
  · exact (component.undivided '/' own).1 rfl
  · exact absurd escape (by decide)

theorem undivided_of_spelledBy {names : List String} {segments : List (List Char)}
    (spelled : SpelledBy names segments) (components : ∀ name ∈ names, IsComponent name) :
    ∀ raw ∈ segments, '/' ∉ raw := by
  induction spelled with
  | nil => exact List.forall_mem_nil _
  | cons spells _ ih =>
      obtain ⟨first, others⟩ := List.forall_mem_cons.mp components
      exact List.forall_mem_cons.mpr ⟨not_slash_of_spells first spells, ih others⟩

theorem namesOf?_nil_cons (parts : List (List Char)) : namesOf? ([] :: parts) = namesOf? parts := by
  have empty : segment [] = .skipped := segment_of_reads (show Reads [] "" from .nil)
  rw [namesOf?, empty]

theorem namesOf?_splitAt {names : List String} {segments : List (List Char)}
    (spelled : SpelledBy names segments) (components : ∀ name ∈ names, IsComponent name) :
    namesOf? (splitAt '/' (['/'].intercalate segments)) = some names := by
  cases segments with
  | nil =>
      cases spelled
      exact namesOf?_nil_cons []
  | cons raw rest =>
      have undivided := undivided_of_spelledBy spelled components
      rw [splitAt_intercalate (List.cons_ne_nil raw rest) undivided]
      exact namesOf?_of_spelledBy spelled components

theorem exists_spelledBy (names : List String) :
    ∃ segments, SpelledBy names segments ∧ ∀ raw ∈ segments, ∀ c ∈ raw, IsEscapeChar c := by
  induction names with
  | nil => exact ⟨[], .nil, List.forall_mem_nil _⟩
  | cons name names ih =>
      obtain ⟨raw, spells, plain⟩ := exists_spells name.toList
      obtain ⟨segments, spelled, others⟩ := ih
      exact ⟨raw :: segments, .cons spells spelled, List.forall_mem_cons.mpr ⟨plain, others⟩⟩

theorem resolve?_of_spelledBy (root : String) {names : List String} {segments : List (List Char)}
    (components : ∀ name ∈ names, IsComponent name) (spelled : SpelledBy names segments) :
    resolve? root (String.ofList (['/'].intercalate segments)) = some (names.foldl joinPath root) ∧
      resolve? root (String.ofList ('/' :: ['/'].intercalate segments)) =
        some (names.foldl joinPath root) := by
  have read := namesOf?_splitAt spelled components
  unfold resolve?
  rw [String.toList_ofList, String.toList_ofList, splitAt_cons_self, namesOf?_nil_cons, read]
  exact ⟨rfl, rfl⟩

/-- A path leads nowhere if a segment of it is refused, and otherwise to where the texts of its
segments lead. Every list of names can be spelled, even with nothing but escapes, and each of its
spellings leads to the file with these names. -/
theorem resolve?_exact (root : String) :
    (∀ path : String,
      (resolve? root path = none ↔ ∃ raw ∈ splitAt '/' path.toList, Refused raw) ∧
        ∀ place, resolve? root path = some place →
          ∃ texts,
            (∀ others, List.Forall₂ Reads (splitAt '/' path.toList) others ↔ others = texts) ∧
            place = (texts.filter fun text => ¬StaysPut text).foldl joinPath root) ∧
      ∀ names : List String, (∀ name ∈ names, IsComponent name) →
        (∀ segments, SpelledBy names segments →
          resolve? root (String.ofList (['/'].intercalate segments)) =
              some (names.foldl joinPath root) ∧
            resolve? root (String.ofList ('/' :: ['/'].intercalate segments)) =
              some (names.foldl joinPath root)) ∧
          ∃ segments, SpelledBy names segments ∧ ∀ raw ∈ segments, ∀ c ∈ raw, IsEscapeChar c := by
  refine ⟨fun path => ⟨?_, fun place found => ?_⟩, fun names components => ⟨?_, ?_⟩⟩
  · unfold resolve?
    rw [Option.map_eq_none_iff, namesOf?_eq_none_iff]
  · obtain ⟨names, read, rfl⟩ := Option.map_eq_some_iff.mp found
    obtain ⟨texts, reads, rfl⟩ := reads_of_namesOf? read
    refine ⟨texts, fun others => ⟨fun read => ?_, fun same => same ▸ reads⟩, rfl⟩
    exact List.right_unique_forall₂' (fun _ _ _ first second => first.unique second) read reads
  · exact fun segments spelled => resolve?_of_spelledBy root components spelled
  · exact exists_spelledBy names

/-- Escapes in names that are themselves spelled with escapes, and a character of two bytes. -/
theorem resolve?_exact_twice :
    let names := ["%41", "a\u00e9"]
    let segments := ["%2541".toList, "a%C3%a9".toList]
    (∀ name ∈ names, IsComponent name) ∧ SpelledBy names segments ∧
      resolve? "/srv" "/%2541/a%C3%a9" = some "/srv/%41/a\u00e9" ∧
      ∃ texts,
        (∀ others, List.Forall₂ Reads (splitAt '/' "/%2541/a%C3%a9".toList) others ↔
          others = texts) ∧
        "/srv/%41/a\u00e9" = (texts.filter fun text => ¬StaysPut text).foldl joinPath "/srv" := by
  intro names segments
  have components : ∀ name ∈ names, IsComponent name := by
    refine List.forall_mem_cons.mpr ⟨?_, List.forall_mem_singleton.mpr ?_⟩ <;>
      constructor <;> simp
  have percent : List.Forall₂ IsEscape (String.utf8EncodeChar '%') [['%', '2', '5']] :=
    .cons (.intro (by decide) (by decide)) .nil
  have accented : List.Forall₂ IsEscape (String.utf8EncodeChar '\u00e9')
      [['%', 'C', '3'], ['%', 'a', '9']] :=
    .cons (.intro (by decide) (by decide)) (.cons (.intro (by decide) (by decide)) .nil)
  have spelled : SpelledBy names segments :=
    .cons (.escaped percent (.literal (by decide) (.literal (by decide) .nil)))
      (.cons (.literal (by decide) (.escaped accented .nil)) .nil)
  obtain ⟨paths, named⟩ := resolve?_exact "/srv"
  have found := ((named names components).1 segments spelled).2
  exact ⟨components, spelled, found, (paths _).2 _ found⟩

end WebviewHost.Server
