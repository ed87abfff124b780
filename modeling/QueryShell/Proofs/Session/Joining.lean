import QueryShell.Proofs.Session.Dispatch
import QueryShell.Proofs.Statement.Joining

namespace QueryShell.Session

open Connection (Client Interrupt Line Request)
open Statement (CharacterNames Node joinedBySemicolon lastToken? read)

def Outcome.after (o : Outcome) (results : List Value) : Outcome :=
  { value := if o.ok then (success (results ++ o.completed)).value else o.value
    error := o.error
    completed := results ++ o.completed
    failedIndex := o.failedIndex.map fun index => results.length + index }

theorem Outcome.success_after (results later : List Value) :
    (Outcome.success later).after results = .success (results ++ later) := rfl

theorem Outcome.failure_after (e : ShellError) (results later : List Value) (index : Nat) :
    (Outcome.failure e later (some index)).after results =
      .failure e (results ++ later) (some (results.length + index)) := rfl

section

variable [Text.Codecs] (client : Client) (scope : Query.Scope)

def requestsFor (line : Line) (nodes : List Node) : List Request :=
  (execute client scope line nodes).2.sent.drop line.sent.length

theorem execute_sent (line : Line) (nodes : List Node) :
    (execute client scope line nodes).2.sent =
      line.sent ++ requestsFor client scope line nodes := by
  obtain ⟨-, requests, hsent, -⟩ := executeFrom_dispatched client scope [] line nodes
  have hsent : (execute client scope line nodes).2.sent = line.sent ++ requests := hsent
  rw [requestsFor, hsent, List.drop_left]

theorem executeFrom_done (done later : List Value) (line : Line) (nodes : List Node) :
    executeFrom client scope (later ++ done) line nodes =
      ((executeFrom client scope later line nodes).1.map (·.after done.reverse),
        (executeFrom client scope later line nodes).2) := by
  induction nodes generalizing later line with
  | nil => simp [executeFrom, Except.map, Outcome.success_after]
  | cons node nodes ih =>
      simp only [executeFrom]
      cases hrun : runStatement client scope line node with
      | mk result line' =>
          cases result with
          | ok v => exact ih (v :: later) line'
          | error stop =>
              cases stop with
              | failed failure => simp [Except.map, Outcome.failure_after, Nat.add_comm]
              | interrupted i => rfl

theorem executeFrom_append (done : List Value) (line : Line) (first second : List Node) :
    executeFrom client scope done line (first ++ second) =
      match executeFrom client scope done line first with
      | (.ok o, next) =>
          if o.ok then executeFrom client scope o.completed.reverse next second else (.ok o, next)
      | (.error i, next) => (.error i, next) := by
  induction first generalizing done line with
  | nil => simp [executeFrom, Outcome.success, Outcome.ok]
  | cons node first ih =>
      simp only [List.cons_append, executeFrom]
      cases hrun : runStatement client scope line node with
      | mk result line' =>
          cases result with
          | ok v => exact ih (v :: done) line'
          | error stop => cases stop <;> rfl

theorem completed_length {done : List Value} {line next : Line} {nodes : List Node} {o : Outcome}
    (h : executeFrom client scope done line nodes = (.ok o, next)) (hok : o.ok = true) :
    o.completed.length = done.length + nodes.length := by
  induction nodes generalizing done line with
  | nil =>
      cases h
      simp [Outcome.success]
  | cons node nodes ih =>
      simp only [executeFrom] at h
      split at h
      · have hlength := ih h
        simp only [List.length_cons] at hlength ⊢
        omega
      · cases h
        cases hok
      · cases h

theorem execute_append (line : Line) (first second : List Node) :
    execute client scope line (first ++ second) =
      match execute client scope line first with
      | (.ok o, next) =>
          if o.ok then
            ((execute client scope next second).1.map (·.after o.completed),
              (execute client scope next second).2)
          else (.ok o, next)
      | (.error i, next) => (.error i, next) := by
  have happend := executeFrom_append client scope [] line first second
  simp only [execute]
  rw [happend]
  cases executeFrom client scope [] line first with
  | mk result next =>
      cases result with
      | error i => rfl
      | ok o =>
          have hdone := executeFrom_done client scope o.completed.reverse [] next second
          rw [List.nil_append, List.reverse_reverse] at hdone
          simp only [hdone]

structure RunsInTurn (line : Line) (first second : List Node) : Prop where
  failed : ∀ {o : Outcome} {next : Line}, execute client scope line first = (.ok o, next) →
    o.ok = false →
    execute client scope line (first ++ second) = (.ok o, next) ∧
      requestsFor client scope line (first ++ second) = requestsFor client scope line first
  interrupted : ∀ {i : Interrupt} {next : Line},
    execute client scope line first = (.error i, next) →
    execute client scope line (first ++ second) = (.error i, next) ∧
      requestsFor client scope line (first ++ second) = requestsFor client scope line first
  succeeded : ∀ {o p : Outcome} {next last : Line},
    execute client scope line first = (.ok o, next) → o.ok = true →
    execute client scope next second = (.ok p, last) →
    ∃ q, execute client scope line (first ++ second) = (.ok q, last) ∧ q.error = p.error ∧
      q.completed = o.completed ++ p.completed ∧
      q.failedIndex = p.failedIndex.map fun index => index + first.length
  interruptedLater : ∀ {o : Outcome} {i : Interrupt} {next last : Line},
    execute client scope line first = (.ok o, next) → o.ok = true →
    execute client scope next second = (.error i, last) →
    execute client scope line (first ++ second) = (.error i, last)
  requests : ∀ {o : Outcome} {next : Line}, execute client scope line first = (.ok o, next) →
    o.ok = true →
    requestsFor client scope line (first ++ second) =
      requestsFor client scope line first ++ requestsFor client scope next second

theorem runsInTurn (line : Line) (first second : List Node) :
    RunsInTurn client scope line first second where
  failed := by
    intro o next h hfailed
    have hsame : execute client scope line (first ++ second) = (.ok o, next) := by
      simp [execute_append, h, hfailed]
    exact ⟨hsame, by rw [requestsFor, requestsFor, hsame, h]⟩
  interrupted := by
    intro i next h
    have hsame : execute client scope line (first ++ second) = (.error i, next) := by
      simp [execute_append, h]
    exact ⟨hsame, by rw [requestsFor, requestsFor, hsame, h]⟩
  succeeded := by
    intro o p next last h hok h'
    have hall : execute client scope line (first ++ second) =
        (.ok (p.after o.completed), last) := by
      simp [execute_append, h, hok, h', Except.map]
    have hcount : o.completed.length = first.length := by
      simpa using completed_length client scope h hok
    exact ⟨_, hall, rfl, rfl, by simp [Outcome.after, hcount, Nat.add_comm]⟩
  interruptedLater := by
    intro o i next last h hok h'
    simp [execute_append, h, hok, h', Except.map]
  requests := by
    intro o next h hok
    have hfirst := execute_sent client scope line first
    rw [h] at hfirst
    have hall : (execute client scope line (first ++ second)).2.sent =
        line.sent ++
          (requestsFor client scope line first ++ requestsFor client scope next second) := by
      simp [execute_append, h, hok, execute_sent, hfirst]
    rw [requestsFor, hall, List.drop_left]

theorem joined_runsInTurn [CharacterNames] {first second : List Char} {nodes later : List Node}
    (h : read first = .parsed nodes) (hlast : lastToken? first ≠ some (.mark .semicolon))
    (h' : read second = .parsed later) :
    read (joinedBySemicolon first second) = .parsed (nodes ++ later) ∧
      ∀ client scope line, RunsInTurn client scope line nodes later :=
  ⟨Statement.read_joined h hlast h', fun client scope line =>
    runsInTurn client scope line nodes later⟩

end

def annotatedCall : List Char :=
  ['N', 'o', 'w', '(', ')', ' ', '/', '/', ' ', ';']

def annotatedNames : List Char :=
  ['/', '/', ' ', '2', '\n', '1', ';', 'x']

theorem joined_runsInTurn_annotated : ∃ nodes later,
    read annotatedCall = .parsed nodes ∧ lastToken? annotatedCall ≠ some (.mark .semicolon) ∧
      read annotatedNames = .parsed later ∧
      read (joinedBySemicolon annotatedCall annotatedNames) = .parsed (nodes ++ later) ∧
      RunsInTurn localClient Query.catalogueScope (.idle (Connection.scripted [])) nodes later := by
  have hcall : ∃ nodes, read annotatedCall = .parsed nodes := by decide +kernel
  have hlast : lastToken? annotatedCall ≠ some (.mark .semicolon) := by decide +kernel
  have hnames : ∃ later, read annotatedNames = .parsed later := by decide +kernel
  obtain ⟨nodes, hnodes⟩ := hcall
  obtain ⟨later, hlater⟩ := hnames
  obtain ⟨hread, hrun⟩ := joined_runsInTurn hnodes hlast hlater
  exact ⟨nodes, later, hnodes, hlast, hlater, hread, hrun _ _ _⟩

end QueryShell.Session
