import WebviewHost.Bridge.Invocation

/-!
# Invocations denote calls

An invocation denotes a call if it gives the name and exactly the arguments of this call.
-/

set_option autoImplicit false

namespace WebviewHost.Bridge

/-- The arguments that a call is invoked with. -/
def Call.arguments : Call → List Json
  | .selectFolder | .getSession | .clearSession => []
  | .saveSession tokens host => [tokens, .string host]
  | .saveSetting key value => [.string key, value]
  | .getSetting key => [.string key]

private theorem exists_ok_of_bind {ε α β : Type} {first : Except ε α} {next : α → Except ε β}
    {result : β} (done : (do let value ← first; next value) = .ok result) :
    ∃ value, first = .ok value ∧ next value = .ok result := by
  cases first with
  | error error => cases done
  | ok value => exact ⟨value, rfl, done⟩

namespace Arguments

/-- Of the arguments of an invocation, some have been taken and the others remain. -/
structure Taken (values seen : List Json) (arguments : Arguments) : Prop where
  whole : values = seen ++ arguments.remaining
  taken : arguments.taken = seen.length
  given : arguments.given = values.length

variable {values seen : List Json} {arguments rest : Arguments}

theorem taken_all (operation : String) (values : List Json) :
    Taken values [] (all operation values) :=
  ⟨rfl, rfl, rfl⟩

theorem Taken.value (taken : Taken values seen arguments) {next : Json}
    (read : arguments.value = .ok (next, rest)) : Taken values (seen ++ [next]) rest := by
  unfold Arguments.value at read
  split at read
  · cases read
  · rename_i remaining
    cases read
    refine ⟨?_, ?_, taken.given⟩
    · rw [taken.whole, remaining, List.append_assoc]
      rfl
    · simp [taken.taken]

theorem Taken.string (taken : Taken values seen arguments) {text : String}
    (read : arguments.string = .ok (text, rest)) : Taken values (seen ++ [.string text]) rest := by
  unfold Arguments.string at read
  split at read
  · cases read
  · rename_i first
    cases read
    exact taken.value first
  · cases read

theorem Taken.finish (taken : Taken values seen arguments) (done : arguments.finish = .ok ()) :
    values = seen := by
  unfold Arguments.finish at done
  split at done
  · rename_i all
    have length := congrArg List.length taken.whole
    rw [List.length_append, ← taken.taken, ← taken.given, all] at length
    have nothing : arguments.remaining = [] := List.eq_nil_of_length_eq_zero (by omega)
    rw [taken.whole, nothing, List.append_nil]
  · cases done

end Arguments

theorem decodeCall_eq_ok_iff {operation : String} {values : List Json} {call : Call} :
    decodeCall operation values = .ok call ↔ operation = call.name ∧ values = call.arguments := by
  constructor
  · intro decoded
    have start := Arguments.taken_all operation values
    unfold decodeCall at decoded
    dsimp only at decoded
    split at decoded
    next =>
      obtain ⟨⟨⟩, done, ⟨⟩⟩ := exists_ok_of_bind decoded
      exact ⟨rfl, start.finish done⟩
    next =>
      obtain ⟨⟨tokens, rest⟩, first, decoded⟩ := exists_ok_of_bind decoded
      obtain ⟨⟨host, last⟩, second, decoded⟩ := exists_ok_of_bind decoded
      obtain ⟨⟨⟩, done, ⟨⟩⟩ := exists_ok_of_bind decoded
      exact ⟨rfl, ((start.value first).string second).finish done⟩
    next =>
      obtain ⟨⟨⟩, done, ⟨⟩⟩ := exists_ok_of_bind decoded
      exact ⟨rfl, start.finish done⟩
    next =>
      obtain ⟨⟨⟩, done, ⟨⟩⟩ := exists_ok_of_bind decoded
      exact ⟨rfl, start.finish done⟩
    next =>
      obtain ⟨⟨key, rest⟩, first, decoded⟩ := exists_ok_of_bind decoded
      obtain ⟨⟨value, last⟩, second, decoded⟩ := exists_ok_of_bind decoded
      obtain ⟨⟨⟩, done, ⟨⟩⟩ := exists_ok_of_bind decoded
      exact ⟨rfl, ((start.string first).value second).finish done⟩
    next =>
      obtain ⟨⟨key, rest⟩, first, decoded⟩ := exists_ok_of_bind decoded
      obtain ⟨⟨⟩, done, ⟨⟩⟩ := exists_ok_of_bind decoded
      exact ⟨rfl, (start.string first).finish done⟩
    next => cases decoded
  · rintro ⟨rfl, rfl⟩
    cases call <;> rfl

theorem invoke_of_error {σ : Type} {perform : Performer σ} {operation : String}
    {arguments : List Json} {error : BridgeError}
    (refused : decodeCall operation arguments = .error error) (state : σ) :
    invoke perform operation arguments state = (.error error, state) := by
  unfold invoke
  rw [refused]

theorem invoke_of_ok {σ : Type} {perform : Performer σ} {operation : String}
    {arguments : List Json} {call : Call} (decoded : decodeCall operation arguments = .ok call)
    (state : σ) :
    invoke perform operation arguments state =
      ((perform call state).1.map Reply.toJson, (perform call state).2) := by
  unfold invoke
  rw [decoded]
  dsimp only
  rcases perform call state with ⟨_ | _, after⟩ <;> rfl

end WebviewHost.Bridge
