import ClusterClient.Proofs.Command.Course
namespace ClusterClient

-- The answer to a write is one of two words, blanks around it apart. Nothing but blanks is an
-- answer to a deletion.
theorem Client.verdict_exact (emptyIsYes : Bool) (body : String) :
    (verdict emptyIsYes body = .ok true ↔
        Text.Stripped body "true" ∨ emptyIsYes = true ∧ Text.allBlank body = true) ∧
      (verdict emptyIsYes body = .ok false ↔ Text.Stripped body "false") ∧
      ∀ failure, verdict emptyIsYes body = .error failure ↔
        ∃ word, Text.Stripped body word ∧ failure = .format (.notAVerdict word) ∧
          word ≠ "true" ∧ word ≠ "false" ∧ (word = "" → emptyIsYes = false) := by
  simp only [← Text.trim_exact,← Text.trim_eq_empty,exists_eq_left']
  unfold verdict
  dsimp only
  -- Three words are told apart, and the empty one only where it counts.
  generalize Text.trim body = word
  by_cases yes : word = "true"
  · simp [yes]
  by_cases no : word = "false"
  · simp [no]
  by_cases empty : word = ""
  · cases emptyIsYes with
    | true => simp [empty]
    | false => simpa [empty] using fun failure => eq_comm
  · simpa [yes,no,empty] using fun failure => eq_comm

namespace Command

theorem write_passed {client : Client} {method : Http.Method} {key : String} {query : Query} {body : List UInt8}
    {emptyIsYes : Bool} {attempt : Attempt}
    (write : attempt.call = client.entryCall method key query body (Client.verdict emptyIsYes)) :
    attempt.fate = .passed ↔ ∃ reply, attempt.answer = some reply ∧ reply.isSuccess = true ∧
      (Text.Stripped reply.text "true" ∨ Text.Stripped reply.text "false" ∨
        emptyIsYes = true ∧ Text.allBlank reply.text = true) := by
  rw [Client.entryCall_passed write]
  refine exists_congr fun reply => and_congr_right fun _ => and_congr_right fun _ => ?_
  obtain ⟨yes,no,_⟩ := Client.verdict_exact emptyIsYes reply.text
  rw [Bool.exists_bool,yes,no]
  exact or_left_comm

def pinged (b : Bool) : Exchange UInt8 :=
  if b then say "Ping: ok" >>= fun _ => pure ExitCode.ok else say "Ping: failed" >>= fun _ => pure ExitCode.temporary

section
variable {readers : Readers} {words : List String} {invocation : Invocation} {files : String → Found}
  {settings : Settings} {agent : Agent}

end

end Command
end ClusterClient
