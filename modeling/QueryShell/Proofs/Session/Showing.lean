import QueryShell.Proofs.Connection.Rejection
import QueryShell.Proofs.Session.Dispatch
import QueryShell.Proofs.Session.Failures

namespace QueryShell

open Connection (Client Line Reply Request Service)
open Render (Console)

namespace Render.Console

theorem errorText_worded {e : ShellError} (h : e.Worded) :
    ∃ message, errorText e = .ok message := by
  obtain ⟨text, htext⟩ := h
  refine ⟨text, ?_⟩
  unfold errorText ShellError.text
  rw [htext]
  split <;> rfl

theorem errorText_unworded {e : ShellError} (htruthy : e.message.truthy = true)
    (h : ¬ e.Worded) : ¬ ∃ message, errorText e = .ok message := by
  rintro ⟨message, hmessage⟩
  unfold errorText at hmessage
  rw [if_pos htruthy] at hmessage
  split at hmessage
  · next text htext => exact h ⟨text, htext⟩
  · cases hmessage
  · cases hmessage

end Render.Console

namespace Session

open Statement (Node)

def Outcome.Showable (o : Outcome) : Prop :=
  ∀ e, o.error = some e → ∃ message, Console.errorText e = .ok message

theorem Outcome.showable_success (results : List Value) : (success results).Showable := by
  intro e he
  cases he

theorem Outcome.showable_failure (e : ShellError) (completed : List Value) (index : Option Nat) :
    (failure e completed index).Showable ↔ ∃ message, Console.errorText e = .ok message := by
  constructor
  · intro h
    exact h e rfl
  · intro h e' he'
    cases he'
    exact h

def replies (service : Service) : List Request → List Request → List Reply
  | _, [] => []
  | before, request :: requests =>
      service before.reverse request :: replies service (before ++ [request]) requests

section

variable {client : Client} {bindings : Query.Scope}

theorem requestOf_worded {node : Node} {failure : Failure}
    (h : requestOf client bindings node = .error failure) : failure.Worded := by
  have hworded : FailsOnly Failure.Worded (requestOf client bindings node) :=
    (Query.evaluate_worded bindings node).bind fun expression => worded_of_fault _
  exact hworded failure h

theorem executeFrom_showable_iff [Text.Codecs] {nodes : List Node} {done : List Value}
    {line after : Line} {outcome : Outcome}
    (h : executeFrom client bindings done line nodes = (.ok outcome, after)) :
    ∃ requests, after.sent = line.sent ++ requests ∧
      (outcome.Showable ↔
        ∀ reply ∈ replies line.service line.sent requests, ¬ reply.Illegible) := by
  induction nodes generalizing done line with
  | nil =>
      cases h
      refine ⟨[], (List.append_nil _).symm, ?_⟩
      simp [replies, Outcome.showable_success]
  | cons node nodes ih =>
      cases hnode : requestOf client bindings node with
      | error failure =>
          rw [executeFrom_unsent hnode] at h
          cases h
          refine ⟨[], (List.append_nil _).symm, ?_⟩
          have htext := Console.errorText_worded (requestOf_worded hnode)
          simp [replies, Outcome.showable_failure, htext]
      | ok request =>
          rw [executeFrom_sent hnode] at h
          cases hreply : client.readReply (line.service line.sent.reverse request) with
          | ok result =>
              rw [hreply] at h
              obtain ⟨requests, hsent, hshown⟩ := ih h
              rw [sent_send] at hsent hshown
              have hlegible : ¬ (line.service line.sent.reverse request).Illegible := by
                intro hillegible
                obtain ⟨e, he, -⟩ := client.readReply_illegible hillegible
                rw [hreply] at he
                cases he
              refine ⟨request :: requests, by simp [hsent], hshown.trans ?_⟩
              simp only [replies, List.forall_mem_cons]
              exact ⟨fun hall => ⟨hlegible, hall⟩, And.right⟩
          | error stop =>
              rw [hreply] at h
              cases stop with
              | interrupted i => cases h
              | failed failure =>
                  cases h
                  refine ⟨[request], sent_send line client.identity request, ?_⟩
                  simp only [replies, List.forall_mem_singleton, Outcome.showable_failure]
                  constructor
                  · intro htext hillegible
                    obtain ⟨e, he, htruthy, hworded⟩ := client.readReply_illegible hillegible
                    rw [hreply] at he
                    cases he
                    exact Console.errorText_unworded htruthy hworded htext
                  · intro hlegible
                    exact Console.errorText_worded (client.readReply_worded hlegible hreply)

end

theorem State.report_fault_iff (s : State) (outcome : Outcome) :
    (s.report outcome).2 = none ↔ outcome.Showable := by
  unfold report Outcome.Showable
  cases outcome.error with
  | none => simp
  | some e =>
      simp only [showing, Option.some.injEq, forall_eq']
      exact Console.showError_fault_iff s.console e

theorem showLastError_fault_iff (console : Console) (outcome : Outcome) :
    (console.showLastError outcome.error).2 = none ↔ outcome.Showable := by
  unfold Console.showLastError Outcome.Showable
  cases outcome.error with
  | none => simp
  | some e =>
      simp only [Option.some.injEq, forall_eq']
      exact Console.showError_fault_iff _ e

theorem report_returns_iff [Text.Codecs] {client : Client} {bindings : Query.Scope}
    {nodes : List Node} {line after : Line} {outcome : Outcome}
    (h : execute client bindings line nodes = (.ok outcome, after)) :
    ∃ requests, after.sent = line.sent ++ requests ∧
      ∀ s : State,
        ((s.report outcome).2 = none ↔
          ∀ reply ∈ replies line.service line.sent requests, ¬ reply.Illegible) ∧
        ((s.console.showLastError outcome.error).2 = none ↔
          ∀ reply ∈ replies line.service line.sent requests, ¬ reply.Illegible) := by
  obtain ⟨requests, hsent, hshown⟩ := executeFrom_showable_iff h
  refine ⟨requests, hsent, fun s => ⟨?_, ?_⟩⟩
  · exact (s.report_fault_iff outcome).trans hshown
  · exact (showLastError_fault_iff s.console outcome).trans hshown

theorem report_returns_iff_answeredStatement :
    ∃ outcome after,
      execute localClient Query.catalogueScope (.idle (Connection.scripted []))
          [.call "Now" []] = (.ok outcome, after) ∧
      ∃ requests, after.sent = (Line.idle (Connection.scripted [])).sent ++ requests ∧
        ∀ s : State,
          ((s.report outcome).2 = none ↔
            ∀ reply ∈ replies (Connection.scripted []) [] requests, ¬ reply.Illegible) ∧
          ((s.console.showLastError outcome.error).2 = none ↔
            ∀ reply ∈ replies (Connection.scripted []) [] requests, ¬ reply.Illegible) := by
  have hok : (execute localClient Query.catalogueScope (.idle (Connection.scripted []))
      [.call "Now" []]).1.isOk = true := by decide +kernel
  cases hrun : execute localClient Query.catalogueScope (.idle (Connection.scripted []))
      [.call "Now" []] with
  | mk result after =>
      rw [hrun] at hok
      cases result with
      | error i => cases hok
      | ok outcome => exact ⟨outcome, after, rfl, report_returns_iff hrun⟩

theorem report_numberedRejection :
    ∃ outcome after,
      execute localClient Query.catalogueScope
          (.idle (Connection.scripted [Connection.numberedRejection])) [.call "Now" []] =
        (.ok outcome, after) ∧
      ∀ s : State, (s.report outcome).2 ≠ none ∧
        (s.console.showLastError outcome.error).2 ≠ none := by
  have hmade : (requestOf localClient Query.catalogueScope (.call "Now" [])).isOk = true := by
    decide +kernel
  obtain ⟨e, hreply, htruthy, hworded⟩ :=
    localClient.readReply_illegible Connection.illegible_numberedRejection
  cases hnode : requestOf localClient Query.catalogueScope (.call "Now" []) with
  | error failure =>
      rw [hnode] at hmade
      cases hmade
  | ok request =>
      have hread : localClient.readReply
          ((Line.idle (Connection.scripted [Connection.numberedRejection])).service
            (Line.idle (Connection.scripted [Connection.numberedRejection])).sent.reverse
            request) = .error (.failed (.reported e)) := hreply
      have hrun := executeFrom_sent hnode []
        (.idle (Connection.scripted [Connection.numberedRejection])) []
      rw [hread] at hrun
      have hhidden : ¬ (Outcome.failure e [] (some 0)).Showable := fun hshown =>
        Console.errorText_unworded htruthy hworded ((Outcome.showable_failure e [] _).1 hshown)
      refine ⟨_, _, hrun, fun s => ⟨?_, ?_⟩⟩
      · exact mt (s.report_fault_iff _).1 hhidden
      · exact mt (showLastError_fault_iff s.console _).1 hhidden

end Session

end QueryShell
