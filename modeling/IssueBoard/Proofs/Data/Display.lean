import IssueBoard.Data.Display
import IssueBoard.Proofs.Outcome

/-! # Values that have no text

An integer of too many digits has no text, and a value has none that holds such an integer or stands
too deep. There is no other reason.
-/

namespace IssueBoard

variable {α β : Type}

/-- Whether a computation cannot fail but for integers of too many digits. -/
def Writes (result : Except Fault α) : Prop := ∀ fault, result = .error fault → fault = .integerTooLong

theorem writes_ok (x : α) : Writes (.ok x) := fun _ never => nomatch never

theorem Writes.bind {first : Except Fault α} {next : α → Except Fault β} (writes : Writes first)
    (rest : ∀ x, Writes (next x)) : Writes (first >>= next) := by
  intro fault failed
  rcases bind_eq_error_iff.mp failed with failed | ⟨x, -, failed⟩
  · exact writes fault failed
  · exact rest x fault failed

theorem writes_mapM {f : α → Except Fault β} (each : ∀ x, Writes (f x)) (xs : List α) :
    Writes (xs.mapM f) := by
  induction xs with
  | nil => exact writes_ok []
  | cons x xs ih =>
    rw [List.mapM_cons]
    exact (each x).bind fun y => ih.bind fun ys => writes_ok (y :: ys)

theorem writes_integerText (n : Int) : Writes (integerText n) := by
  intro fault failed
  rw [integerText] at failed
  split at failed
  · cases failed
  · cases failed
    rfl

theorem writes_numberDisplay (number : Number) : Writes number.display := by
  cases number with
  | integer n => exact writes_integerText n
  | real x =>
    rw [Number.display]
    split
    · exact writes_ok _
    · split
      · exact writes_integerText _
      · exact writes_ok _

theorem writes_atom (atom : Atom) : Writes atom.literal := by
  cases atom with
  | integer n => exact writes_integerText n
  | _ => exact writes_ok _

namespace Data

mutual

theorem writes (value : Data) : Writes value.write :=
  match value with
  | .atom a => writes_atom a
  | .list items => (writes_items items).bind fun _ => writes_ok _
  | .object entries => (writes_entries entries).bind fun _ => writes_ok _
  | .set [] => writes_ok _
  | .set (member :: members) =>
    (writes_mapM writes_atom (member :: members)).bind fun _ => writes_ok _
  | .record _ fields => (writes_fields fields).bind fun _ => writes_ok _

theorem writes_items (items : List Data) : Writes (writeItems items) :=
  match items with
  | [] => writes_ok []
  | item :: rest => (writes item).bind fun _ => (writes_items rest).bind fun _ => writes_ok _

theorem writes_entries (entries : List (Atom × Data)) : Writes (writeEntries entries) :=
  match entries with
  | [] => writes_ok []
  | (key, value) :: rest =>
    (writes_atom key).bind fun _ => (writes value).bind fun _ =>
      (writes_entries rest).bind fun _ => writes_ok _

theorem writes_fields (fields : List (String × Data)) : Writes (writeFields fields) :=
  match fields with
  | [] => writes_ok []
  | (_, value) :: rest =>
    (writes value).bind fun _ => (writes_fields rest).bind fun _ => writes_ok _

end

/-- A value that has no text holds an integer of too many digits, or is too deep. -/
theorem toText_error {value : Data} {fault : Fault} (failed : value.toText = .error fault) :
    fault = .integerTooLong ∨ fault = .nestedTooDeep := by
  unfold toText at failed
  split at failed
  · cases failed
  · cases failed
  · rw [literal] at failed
    split at failed
    · cases failed
      exact .inr rfl
    · exact .inl (writes value fault failed)

theorem display_error {value : Data} {fault : Fault} (failed : value.display = .error fault) :
    fault = .integerTooLong ∨ fault = .nestedTooDeep := by
  unfold display at failed
  split at failed
  · cases failed
  · cases failed
  · exact .inl (writes_numberDisplay _ fault failed)
  · exact toText_error failed

end Data

end IssueBoard
