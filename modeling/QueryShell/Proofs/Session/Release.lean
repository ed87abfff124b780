import QueryShell.Proofs.Connection.Identity
import QueryShell.Proofs.Session.Dispatch

namespace QueryShell

namespace Connection

def Event.IsRequest : Event → Prop
  | .sent .. => True
  | .closed _ => False

theorem Event.isRequest_sent (identity : Identity) (request : Request) :
    (Event.sent identity request).IsRequest :=
  trivial

theorem Event.not_isRequest_closed (identity : Identity) : ¬ (Event.closed identity).IsRequest :=
  id

namespace Line

def closings (line : Line) : List Identity :=
  line.events.filterMap fun
    | .closed identity => some identity
    | .sent .. => none

def Unclosed (line : Line) : Prop :=
  ∀ e ∈ line.events, e.IsRequest

theorem unclosed_idle (service : Service) : (idle service).Unclosed := by
  simp [Unclosed, idle]

theorem Unclosed.send {line : Line} (h : line.Unclosed) (identity : Identity)
    (request : Request) : (line.send identity request).2.Unclosed := by
  intro e he
  rcases List.mem_cons.1 he with rfl | he
  · exact Event.isRequest_sent identity request
  · exact h e he

theorem Unclosed.closings_eq {line : Line} (h : line.Unclosed) : line.closings = [] := by
  refine List.filterMap_eq_nil_iff.2 fun e he => ?_
  cases e with
  | sent => rfl
  | closed identity => exact absurd (h _ he) (Event.not_isRequest_closed identity)

theorem closings_close (line : Line) (identity : Identity) :
    (line.close identity).closings = identity :: line.closings :=
  rfl

def Silent (line : Line) : Prop :=
  line.events.Pairwise fun later earlier => later.IsRequest → earlier.IsRequest

theorem Unclosed.silent {line : Line} (h : line.Unclosed) : line.Silent :=
  List.pairwise_iff_forall_sublist.2 fun hpair _ => h _ (hpair.subset (by simp))

theorem Silent.close {line : Line} (h : line.Silent) (identity : Identity) :
    (line.close identity).Silent :=
  List.Pairwise.cons (fun _ _ hrequest => absurd hrequest (Event.not_isRequest_closed identity)) h

structure Released (line : Line) (root : Client) (handedOut : Option Client) : Prop where
  rootOnce : line.closings.count root.identity = 1
  handedOutOnce : ∀ client ∈ handedOut, line.closings.count client.identity = 1
  nobodyElse : ∀ identity ∈ line.closings,
    identity = root.identity ∨ ∃ client ∈ handedOut, client.identity = identity
  toldApart : ∀ client ∈ handedOut, client.identity = root.identity → client = root
  silent : line.Silent

theorem Silent.release {line : Line} (h : line.Silent) (handedOut : Option Client) :
    (line.release handedOut).Silent := by
  unfold Line.release
  have hroot := h.close .root
  cases handedOut with
  | none => exact hroot
  | some client =>
      simp only
      split
      · exact hroot
      · exact hroot.close client.identity

theorem Unclosed.closings_release {line : Line} (h : line.Unclosed) (client : Client) :
    (line.release none).closings = [.root] ∧
      (line.release (some client)).closings =
        if client.identity = .root then [.root] else [client.identity, .root] := by
  have hroot : (line.close .root).closings = [.root] := by
    rw [closings_close, h.closings_eq]
  refine ⟨hroot, ?_⟩
  simp only [release]
  split
  · exact hroot
  · rw [closings_close, hroot]

theorem Unclosed.released {line : Line} (h : line.Unclosed) {root : Client}
    (hroot : root.identity = .root) {handedOut : Option Client}
    (hapart : ∀ client ∈ handedOut, client.identity = root.identity → client = root) :
    (line.release handedOut).Released root handedOut := by
  have hsilent := h.silent.release handedOut
  cases handedOut with
  | none =>
      have hclosings := (h.closings_release root).1
      exact ⟨by simp [hclosings, hroot], by simp, by simp [hclosings, hroot], hapart, hsilent⟩
  | some client =>
      have hclosings := (h.closings_release client).2
      by_cases hsame : client.identity = .root
      · rw [if_pos hsame] at hclosings
        exact ⟨by simp [hclosings, hroot], by simp [hclosings, hsame],
          by simp [hclosings, hroot], hapart, hsilent⟩
      · rw [if_neg hsame] at hclosings
        have hother : Identity.root ≠ client.identity := fun h => hsame h.symm
        exact ⟨by simp [hclosings, hroot, hsame], by simp [hclosings, hother],
          by simp [hclosings, hroot], hapart, hsilent⟩

end Line

theorem Client.access_cases [Text.Codecs] (root : Client) (line : Line) (database : String) :
    ((root.access line database).2 = line ∨
        ∃ check, (root.access line database).2 = (line.send root.identity check).2) ∧
      ∀ client, (root.access line database).1 = .ok client →
        client = root ∨ client = root.scopedTo database := by
  by_cases hname : database = ""
  · subst hname
    refine ⟨.inl rfl, fun client hclient => ?_⟩
    cases hclient
    exact .inl rfl
  · obtain ⟨check, -, -, hgranted, hrefused⟩ := root.access_named line hname
    by_cases hfinds : root.Finds (line.service line.requests check)
    · have haccess := hgranted hfinds
      refine ⟨.inr ⟨check, congrArg Prod.snd haccess⟩, fun client hclient => ?_⟩
      rw [haccess] at hclient
      cases hclient
      exact .inr rfl
    · obtain ⟨stop, haccess⟩ := hrefused hfinds
      refine ⟨.inr ⟨check, congrArg Prod.snd haccess⟩, fun client hclient => ?_⟩
      rw [haccess] at hclient
      cases hclient

end Connection

namespace Session

open Connection (Client Line Options Request Service)
open Render (Console)
open Statement (CharacterNames Node)

section

variable [Text.Codecs] {P : Line → Prop} {client : Client}
  (hsend : ∀ line request, P line → P (line.send client.identity request).2)
include hsend

theorem executeFrom_keeps (bindings : Query.Scope) (done : List Value) {line : Line}
    (h : P line) (nodes : List Node) : P (executeFrom client bindings done line nodes).2 := by
  induction nodes generalizing done line with
  | nil => exact h
  | cons node nodes ih =>
      cases hnode : requestOf client bindings node with
      | error failure =>
          rw [executeFrom_unsent hnode]
          exact h
      | ok request =>
          have hsent := hsend line request h
          rw [executeFrom_sent hnode]
          cases client.readReply (line.service line.sent.reverse request) with
          | ok result => exact ih (result :: done) hsent
          | error stop => cases stop <;> exact hsent

theorem lineAfter_keeps (bindings : Query.Scope) {line : Line} (h : P line) (x : Submission) :
    P (x.lineAfter client bindings line) := by
  cases x with
  | malformed e => exact h
  | parsed nodes => exact executeFrom_keeps hsend bindings [] h nodes

theorem foldl_lineAfter_keeps (bindings : Query.Scope) {line : Line} (h : P line)
    (xs : List Submission) : P (xs.foldl (Submission.lineAfter client bindings) line) := by
  induction xs generalizing line with
  | nil => exact h
  | cons x xs ih => exact ih (lineAfter_keeps hsend bindings h x)

variable [CharacterNames]

theorem converse_keeps (database : String) (console : Console) {line : Line} (h : P line)
    (inputs : List Input) : P (converse client database console line inputs).line := by
  unfold converse
  split
  · exact h
  · next console' _ =>
      obtain ⟨taken, -, hafter, -⟩ := State.readFrom_after []
        (State.start client Query.catalogueScope database console' line) inputs
      simp only
      rw [hafter, (State.after_submissions rfl taken).1]
      exact foldl_lineAfter_keeps hsend Query.catalogueScope h _

end

theorem runShell_released [CharacterNames] [Text.Codecs] {options : Options} {root : Client}
    (hroot : Client.root options = .ok root) (database : String) (console : Console)
    (service : Service) (inputs : List Input) :
    (runShell root database console service inputs).line.Released root
      (root.access (.idle service) database).1.toOption := by
  obtain ⟨-, hidentity, -⟩ := Client.root_eq hroot
  obtain ⟨hline, hclient⟩ := root.access_cases (.idle service) database
  have hopen : (root.access (.idle service) database).2.Unclosed := by
    have hidle := Line.unclosed_idle service
    rcases hline with hline | ⟨check, hline⟩ <;> rw [hline]
    · exact hidle
    · exact hidle.send root.identity check
  have hapart : ∀ client ∈ (root.access (.idle service) database).1.toOption,
      client.identity = root.identity → client = root := by
    intro client hmem hsame
    rw [hidentity] at hsame
    rcases hclient client (ok_of_mem_toOption hmem) with rfl | rfl
    · rfl
    · cases hsame
  unfold runShell
  cases haccess : root.access (.idle service) database with
  | mk found line =>
      rw [haccess] at hopen hapart
      cases found with
      | error stop => exact hopen.released hidentity hapart
      | ok client =>
          have hsend : ∀ line request, Line.Unclosed line →
              (line.send client.identity request).2.Unclosed :=
            fun line request h => h.send client.identity request
          exact (converse_keeps hsend database console hopen inputs).released hidentity hapart

theorem runShell_released_foundDatabase :
    ∃ root handedOut, Client.root localClient.options = .ok root ∧
      (root.access (.idle (Connection.scripted [])) "db").1 = .ok handedOut ∧
      handedOut.identity = .scoped "db" ∧
      (runShell root "db" (.ofWidth 80) (Connection.scripted []) troubledInputs).line.Released root
        (some handedOut) := by
  have hfound : (match Client.root localClient.options with
      | .ok root =>
          (root.access (.idle (Connection.scripted [])) "db").1.toOption.map (·.identity)
      | .error _ => none) = some (.scoped "db") := by decide +kernel
  cases hroot : Client.root localClient.options with
  | error fault =>
      rw [hroot] at hfound
      cases hfound
  | ok root =>
      rw [hroot] at hfound
      obtain ⟨handedOut, hmem, hidentity⟩ := Option.map_eq_some_iff.1 hfound
      have hreleased := runShell_released hroot "db" (.ofWidth 80) (Connection.scripted [])
        troubledInputs
      rw [hmem] at hreleased
      exact ⟨root, handedOut, rfl, ok_of_mem_toOption hmem, hidentity, hreleased⟩

end Session

end QueryShell
