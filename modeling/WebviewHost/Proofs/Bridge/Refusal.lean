import WebviewHost.Proofs.Bridge.Invocation

/-!
# Refused invocations

Which invocations are refused, and why. The arguments are read from left to right: a value that
should be a string is told of even if the number of arguments is wrong as well. A bridge sees one
call of an invocation that is accepted and nothing of one that is refused.
-/

set_option autoImplicit false

namespace WebviewHost.Bridge

/-! ## What operations take -/

/-- What an operation takes in one place: a string, or any value. -/
inductive Parameter where
  | text
  | any
  deriving DecidableEq, Repr

/-- The six operations, and what each of them takes from left to right. -/
def signature? : String → Option (List Parameter)
  | "select_folder" | "get_session" | "clear_session" => some []
  | "save_session" => some [.any, .text]
  | "save_setting" => some [.text, .any]
  | "get_setting" => some [.text]
  | _ => none

/-- Arguments that fit: as many as are taken, and strings where strings are taken. -/
structure Fits (parameters : List Parameter) (values : List Json) : Prop where
  count : values.length = parameters.length
  texts : ∀ position : Nat, parameters[position]? = some Parameter.text →
    ∃ text, values[position]? = some (Json.string text)

/-- The first place where a string is taken and another value is given. -/
structure FirstMisfit (parameters : List Parameter) (values : List Json) (position : Nat)
    (value : Json) : Prop where
  taken : parameters[position]? = some Parameter.text
  given : values[position]? = some value
  noText : ∀ text, value ≠ .string text
  first : ∀ earlier : Nat, earlier < position → parameters[earlier]? = some Parameter.text →
    ∃ text, values[earlier]? = some (Json.string text)

/-- Why an invocation is refused. A value that should be a string counts more than the number of the
arguments. -/
inductive Refusal (operation : String) (values : List Json) : BridgeError → Prop where
  | unknown : signature? operation = none →
      Refusal operation values (.unknownOperation operation)
  | notAString {parameters : List Parameter} {position : Nat} {value : Json} :
      signature? operation = some parameters → FirstMisfit parameters values position value →
      Refusal operation values (.invalidArguments operation (.notAString (position + 1) value.kind))
  | miscounted {parameters : List Parameter} :
      signature? operation = some parameters →
      (∀ position value, ¬FirstMisfit parameters values position value) →
      values.length ≠ parameters.length →
      Refusal operation values
        (.invalidArguments operation (.arity parameters.length values.length))

/-! ## One reason -/

theorem FirstMisfit.unique {parameters : List Parameter} {values : List Json}
    {position other : Nat} {value otherValue : Json}
    (misfit : FirstMisfit parameters values position value)
    (otherMisfit : FirstMisfit parameters values other otherValue) :
    position = other ∧ value = otherValue := by
  have least : ∀ {left right : Nat} {found later : Json}, FirstMisfit parameters values left found →
      FirstMisfit parameters values right later → ¬left < right := by
    intro left right found later first second before
    obtain ⟨text, held⟩ := second.first left before first.taken
    rw [first.given] at held
    exact first.noText text (Option.some.inj held)
  have same : position = other :=
    Nat.le_antisymm (Nat.not_lt.mp (least otherMisfit misfit))
      (Nat.not_lt.mp (least misfit otherMisfit))
  subst same
  exact ⟨rfl, Option.some.inj (misfit.given.symm.trans otherMisfit.given)⟩

theorem Refusal.unique {operation : String} {values : List Json} {error other : BridgeError}
    (refusal : Refusal operation values error) (otherRefusal : Refusal operation values other) :
    error = other := by
  cases refusal with
  | unknown unknown =>
      cases otherRefusal with
      | unknown _ => rfl
      | notAString known _ => cases unknown.symm.trans known
      | miscounted known _ _ => cases unknown.symm.trans known
  | notAString known misfit =>
      cases otherRefusal with
      | unknown unknown => cases unknown.symm.trans known
      | notAString knownToo otherMisfit =>
          cases known.symm.trans knownToo
          obtain ⟨rfl, rfl⟩ := misfit.unique otherMisfit
          rfl
      | miscounted knownToo noMisfit _ =>
          cases known.symm.trans knownToo
          exact absurd misfit (noMisfit _ _)
  | miscounted known noMisfit _ =>
      cases otherRefusal with
      | unknown unknown => cases unknown.symm.trans known
      | notAString knownToo misfit =>
          cases known.symm.trans knownToo
          exact absurd misfit (noMisfit _ _)
      | miscounted knownToo _ _ =>
          cases known.symm.trans knownToo
          rfl

/-! ## Reading the arguments -/

theorem Fits.concat {parameters : List Parameter} {values : List Json}
    (fits : Fits parameters values) {parameter : Parameter} {value : Json}
    (next : parameter = .text → ∃ text, value = .string text) :
    Fits (parameters ++ [parameter]) (values ++ [value]) := by
  refine ⟨by simp [fits.count], fun position taken => ?_⟩
  rcases Nat.lt_trichotomy position parameters.length with before | rfl | beyond
  · rw [List.getElem?_append_left before] at taken
    rw [List.getElem?_append_left (fits.count ▸ before)]
    exact fits.texts position taken
  · rw [List.getElem?_concat_length, Option.some.injEq] at taken
    obtain ⟨text, rfl⟩ := next taken
    exact ⟨text, by rw [← fits.count, List.getElem?_concat_length]⟩
  · rw [List.getElem?_eq_none (by simp; omega)] at taken
    cases taken

/-- Among arguments that begin with some that fit, a misfit comes after these. -/
theorem Fits.length_le_misfit {before after : List Parameter} {values seen remaining : List Json}
    (fits : Fits before seen) (whole : values = seen ++ remaining) {position : Nat} {value : Json}
    (misfit : FirstMisfit (before ++ after) values position value) : before.length ≤ position := by
  refine Nat.not_lt.mp fun within => ?_
  have taken := misfit.taken
  have given := misfit.given
  rw [List.getElem?_append_left within] at taken
  rw [whole, List.getElem?_append_left (fits.count ▸ within)] at given
  obtain ⟨text, held⟩ := fits.texts position taken
  rw [given] at held
  exact misfit.noText text (Option.some.inj held)

theorem Fits.not_firstMisfit {parameters : List Parameter} {values : List Json}
    (fits : Fits parameters values) (position : Nat) (value : Json) :
    ¬FirstMisfit parameters values position value := by
  intro misfit
  obtain ⟨text, held⟩ := fits.texts position misfit.taken
  rw [misfit.given] at held
  exact misfit.noText text (Option.some.inj held)

theorem arity_of_signature? {operation : String} {parameters : List Parameter}
    (known : signature? operation = some parameters) : arity operation = parameters.length := by
  unfold signature? at known
  split at known <;> cases known <;> rfl

namespace Arguments

/-- An invocation of which the first arguments have been taken and fit. -/
structure Begun (operation : String) (before : List Parameter) (values seen : List Json)
    (arguments : Arguments) : Prop extends Taken values seen arguments where
  operation : arguments.operation = operation
  fits : Fits before seen

variable {operation : String} {before after : List Parameter} {parameter : Parameter}
  {values seen : List Json} {arguments rest : Arguments} {error : BridgeError}

theorem begun_all (operation : String) (values : List Json) :
    Begun operation [] values [] (all operation values) :=
  ⟨taken_all operation values, rfl, rfl, fun position taken => by cases taken⟩

theorem Begun.value (begun : Begun operation before values seen arguments) {next : Json}
    (read : arguments.value = .ok (next, rest)) :
    Begun operation (before ++ [.any]) values (seen ++ [next]) rest := by
  refine ⟨begun.toTaken.value read, ?_, begun.fits.concat (by simp)⟩
  unfold Arguments.value at read
  split at read
  · cases read
  · cases read
    exact begun.operation

theorem Begun.string (begun : Begun operation before values seen arguments) {text : String}
    (read : arguments.string = .ok (text, rest)) :
    Begun operation (before ++ [.text]) values (seen ++ [.string text]) rest := by
  refine ⟨begun.toTaken.string read, ?_, begun.fits.concat fun _ => ⟨text, rfl⟩⟩
  unfold Arguments.string at read
  split at read
  · cases read
  · rename_i first
    cases read
    exact (begun.value first).operation
  · cases read

theorem Begun.arityError_eq (begun : Begun operation before values seen arguments)
    {parameters : List Parameter} (known : signature? operation = some parameters) :
    arguments.arityError =
      .invalidArguments operation (.arity parameters.length values.length) := by
  unfold arityError
  rw [begun.operation, begun.given, arity_of_signature? known]

theorem Begun.refusal_of_value (begun : Begun operation before values seen arguments)
    (known : signature? operation = some (before ++ parameter :: after))
    (failed : arguments.value = .error error) : Refusal operation values error := by
  unfold Arguments.value at failed
  split at failed
  · rename_i nothing
    cases failed
    rw [begun.arityError_eq known]
    have all : values = seen := by rw [begun.whole, nothing, List.append_nil]
    refine .miscounted known (fun position value misfit => ?_) ?_
    · have late := begun.fits.length_le_misfit begun.whole misfit
      have given := misfit.given
      rw [all, List.getElem?_eq_none (begun.fits.count ▸ late)] at given
      cases given
    · rw [all, begun.fits.count]
      simp
  · cases failed

theorem Begun.refusal_of_string (begun : Begun operation before values seen arguments)
    (known : signature? operation = some (before ++ .text :: after))
    (failed : arguments.string = .error error) : Refusal operation values error := by
  unfold Arguments.string at failed
  split at failed
  · rename_i missing
    cases failed
    exact begun.refusal_of_value known missing
  · cases failed
  · rename_i other left noText read
    cases failed
    have further := begun.value read
    have position : left.taken = before.length + 1 := by
      rw [further.taken, List.length_append, begun.fits.count, List.length_singleton]
    have whole := further.whole
    rw [List.append_assoc, List.singleton_append] at whole
    rw [begun.operation, position]
    refine .notAString known ⟨?_, ?_, fun text same => ?_, fun earlier early taken => ?_⟩
    · simp
    · rw [whole, ← begun.fits.count]
      simp
    · exact noText text same
    · rw [List.getElem?_append_left early] at taken
      rw [whole, List.getElem?_append_left (begun.fits.count ▸ early)]
      exact begun.fits.texts earlier taken

theorem Begun.refusal_of_finish (begun : Begun operation before values seen arguments)
    (known : signature? operation = some before)
    (failed : arguments.finish = .error error) : Refusal operation values error := by
  unfold finish at failed
  split at failed
  · cases failed
  · rename_i apart
    cases failed
    rw [begun.arityError_eq known]
    refine .miscounted known (fun position value misfit => ?_) ?_
    · have taken := misfit.taken
      rw [← List.append_nil before] at misfit
      have late := begun.fits.length_le_misfit begun.whole misfit
      rw [List.getElem?_eq_none late] at taken
      cases taken
    · rw [begun.given, begun.taken, begun.fits.count] at apart
      exact apart

end Arguments

private theorem error_of_bind {ε α β : Type} {first : Except ε α} {next : α → Except ε β}
    {error : ε} (failed : (do let value ← first; next value) = .error error) :
    first = .error error ∨ ∃ value, first = .ok value ∧ next value = .error error := by
  cases first with
  | error reason =>
      cases failed
      exact .inl rfl
  | ok value => exact .inr ⟨value, rfl, failed⟩

theorem refusal_of_decodeCall {operation : String} {values : List Json} {error : BridgeError}
    (refused : decodeCall operation values = .error error) : Refusal operation values error := by
  have start := Arguments.begun_all operation values
  unfold decodeCall at refused
  dsimp only at refused
  split at refused
  next =>
    rcases error_of_bind refused with failed | ⟨⟨⟩, _, ⟨⟩⟩
    exact start.refusal_of_finish rfl failed
  next =>
    rcases error_of_bind refused with failed | ⟨⟨tokens, rest⟩, first, refused⟩
    · exact start.refusal_of_value rfl failed
    · rcases error_of_bind refused with failed | ⟨⟨host, last⟩, second, refused⟩
      · exact (start.value first).refusal_of_string rfl failed
      · rcases error_of_bind refused with failed | ⟨⟨⟩, _, ⟨⟩⟩
        exact ((start.value first).string second).refusal_of_finish rfl failed
  next =>
    rcases error_of_bind refused with failed | ⟨⟨⟩, _, ⟨⟩⟩
    exact start.refusal_of_finish rfl failed
  next =>
    rcases error_of_bind refused with failed | ⟨⟨⟩, _, ⟨⟩⟩
    exact start.refusal_of_finish rfl failed
  next =>
    rcases error_of_bind refused with failed | ⟨⟨key, rest⟩, first, refused⟩
    · exact start.refusal_of_string rfl failed
    · rcases error_of_bind refused with failed | ⟨⟨value, last⟩, second, refused⟩
      · exact (start.string first).refusal_of_value rfl failed
      · rcases error_of_bind refused with failed | ⟨⟨⟩, _, ⟨⟩⟩
        exact ((start.string first).value second).refusal_of_finish rfl failed
  next =>
    rcases error_of_bind refused with failed | ⟨⟨key, rest⟩, first, refused⟩
    · exact start.refusal_of_string rfl failed
    · rcases error_of_bind refused with failed | ⟨⟨⟩, _, ⟨⟩⟩
      exact (start.string first).refusal_of_finish rfl failed
  next =>
    cases refused
    refine .unknown ?_
    unfold signature?
    split <;> simp_all

theorem exists_call_iff_fits {operation : String} {values : List Json} :
    (∃ call : Call, operation = call.name ∧ values = call.arguments) ↔
      ∃ parameters, signature? operation = some parameters ∧ Fits parameters values := by
  constructor
  · rintro ⟨call, rfl, rfl⟩
    have empty : Fits [] [] := ⟨rfl, fun position taken => by cases taken⟩
    have any : ∀ {parameters values}, Fits parameters values → ∀ value,
        Fits (parameters ++ [.any]) (values ++ [value]) := fun fits value => fits.concat (by simp)
    have text : ∀ {parameters values}, Fits parameters values → ∀ text,
        Fits (parameters ++ [.text]) (values ++ [.string text]) :=
      fun fits text => fits.concat fun _ => ⟨text, rfl⟩
    cases call with
    | selectFolder => exact ⟨_, rfl, empty⟩
    | saveSession tokens host => exact ⟨_, rfl, text (any empty tokens) host⟩
    | getSession => exact ⟨_, rfl, empty⟩
    | clearSession => exact ⟨_, rfl, empty⟩
    | saveSetting key value => exact ⟨_, rfl, any (text empty key) value⟩
    | getSetting key => exact ⟨_, rfl, text empty key⟩
  · rintro ⟨parameters, known, fits⟩
    cases decoded : decodeCall operation values with
    | ok call => exact ⟨call, decodeCall_eq_ok_iff.mp decoded⟩
    | error error =>
        cases refusal_of_decodeCall decoded with
        | unknown unknown => cases unknown.symm.trans known
        | notAString knownToo misfit =>
            cases known.symm.trans knownToo
            exact absurd misfit (fits.not_firstMisfit _ _)
        | miscounted knownToo _ apart =>
            cases known.symm.trans knownToo
            exact absurd fits.count apart

theorem signature?_eq_none_iff {operation : String} :
    signature? operation = none ↔ ∀ call : Call, call.name ≠ operation := by
  constructor
  · rintro unknown call rfl
    cases call <;> cases unknown
  · intro apart
    unfold signature?
    split
    next => exact absurd rfl (apart .selectFolder)
    next => exact absurd rfl (apart .getSession)
    next => exact absurd rfl (apart .clearSession)
    next => exact absurd rfl (apart (.saveSession .null ""))
    next => exact absurd rfl (apart (.saveSetting "" .null))
    next => exact absurd rfl (apart (.getSetting ""))
    next => rfl

/-! ## Calls that are made -/

/-- A bridge that also notes the calls that are made on it. -/
def noting {σ : Type} (perform : Performer σ) : Performer (σ × List Call)
  | call, (state, noted) => ((perform call state).1, (perform call state).2, noted ++ [call])

/-- What an invocation does with a bridge: it makes the one call that it denotes, or none, and then
the bridge is as it was and there is exactly one reason. -/
structure CallsOnceOrNever {σ : Type} (perform : Performer σ) (operation : String)
    (values : List Json) (state : σ) : Prop where
  accepted_iff : (∃ call : Call, operation = call.name ∧ values = call.arguments) ↔
    ∃ parameters, signature? operation = some parameters ∧ Fits parameters values
  once : ∀ call : Call, operation = call.name → values = call.arguments → ∀ noted,
    invoke (noting perform) operation values (state, noted) =
      ((perform call state).1.map Reply.toJson, (perform call state).2, noted ++ [call])
  never : (¬∃ call : Call, operation = call.name ∧ values = call.arguments) →
    ∃ error, (∀ other, Refusal operation values other ↔ other = error) ∧ ∀ noted,
      invoke (noting perform) operation values (state, noted) = (.error error, state, noted)
  unnoted : ∀ noted, invoke perform operation values state =
    ((invoke (noting perform) operation values (state, noted)).1,
      (invoke (noting perform) operation values (state, noted)).2.1)
  unknown_iff : Refusal operation values (.unknownOperation operation) ↔
    ∀ call : Call, call.name ≠ operation
  expected : ∀ parameters, signature? operation = some parameters →
    ∀ call : Call, call.name = operation → call.arguments.length = parameters.length

/-- An invocation makes exactly one call, with the arguments it was given, or is refused before the
bridge sees anything. -/
theorem invoke_callsOnceOrNever {σ : Type} (perform : Performer σ) (operation : String)
    (values : List Json) (state : σ) : CallsOnceOrNever perform operation values state := by
  constructor
  case accepted_iff => exact exists_call_iff_fits
  case once =>
    intro call named given noted
    exact invoke_of_ok (decodeCall_eq_ok_iff.mpr ⟨named, given⟩) (state, noted)
  case never =>
    intro noCall
    cases decoded : decodeCall operation values with
    | ok call => exact absurd ⟨call, decodeCall_eq_ok_iff.mp decoded⟩ noCall
    | error error =>
        have refusal := refusal_of_decodeCall decoded
        refine ⟨error, fun other => ⟨fun otherRefusal => otherRefusal.unique refusal, ?_⟩,
          fun noted => invoke_of_error decoded (state, noted)⟩
        rintro rfl
        exact refusal
  case unnoted =>
    intro noted
    cases decoded : decodeCall operation values with
    | ok call =>
        rw [invoke_of_ok decoded, invoke_of_ok decoded]
        rfl
    | error error => rw [invoke_of_error decoded, invoke_of_error decoded]
  case unknown_iff =>
    rw [← signature?_eq_none_iff]
    exact ⟨fun refusal => by cases refusal; assumption, .unknown⟩
  case expected =>
    rintro parameters known call rfl
    obtain ⟨_, knownToo, fits⟩ := exists_call_iff_fits.mp ⟨call, rfl, rfl⟩
    cases known.symm.trans knownToo
    exact fits.count

/-- Of a wrong value and a wrong number of arguments, the value is told of. -/
example : decodeCall "get_setting" [.null, .null] =
    .error (.invalidArguments "get_setting" (.notAString 1 "null")) := rfl

end WebviewHost.Bridge
