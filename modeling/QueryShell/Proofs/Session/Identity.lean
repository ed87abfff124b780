import QueryShell.Proofs.Connection.Identity
import QueryShell.Proofs.Session.Dispatch
import QueryShell.Session.Shell

namespace QueryShell.Session

open Connection (Client Line Options Request Service)
open Render (Console)
open Statement (CharacterNames Node)

section

variable {client : Client} {bindings : Query.Scope} {service : Service}

theorem requestOf_carries {node : Node} {r : Request}
    (h : requestOf client bindings node = .ok r) : r.Carries client.secret := by
  obtain ⟨expression, -, hmade⟩ := bind_ok.1 h
  cases hrequest : Query.toWire expression >>= client.request with
  | error fault =>
      rw [hrequest] at hmade
      cases hmade
  | ok made =>
      rw [hrequest] at hmade
      cases hmade
      obtain ⟨wire, -, hwire⟩ := bind_ok.1 hrequest
      exact Connection.Client.request_carries hwire

theorem carries_of_made {nodes : List Node} {requests : List Request}
    (hmade : nodes.map (requestOf client bindings) = requests.map .ok) :
    ∀ r ∈ requests, r.Carries client.secret := by
  intro r hr
  have hmem : Except.ok r ∈ nodes.map (requestOf client bindings) := by
    rw [hmade]
    exact List.mem_map_of_mem hr
  obtain ⟨node, -, hnode⟩ := List.mem_map.1 hmem
  exact requestOf_carries hnode

theorem Dispatched.carries [Text.Codecs] {before requests : List Request} {nodes : List Node}
    (h : Dispatched client bindings service before nodes requests) :
    ∀ r ∈ requests, r.Carries client.secret := by
  cases h with
  | whole hmade => exact carries_of_made hmade
  | unsent hmade => exact carries_of_made hmade
  | unanswered hmade _ hnode =>
      intro r hr
      rcases List.mem_append.1 hr with hr | hr
      · exact carries_of_made hmade r hr
      · rw [List.mem_singleton.1 hr]
        exact requestOf_carries hnode

theorem DispatchedAll.carries [Text.Codecs] {before requests : List Request} {xs : List Submission}
    (h : DispatchedAll client bindings service before xs requests) :
    ∀ r ∈ requests, r.Carries client.secret := by
  induction h with
  | nil => simp
  | malformed _ ih => exact ih
  | parsed hnodes _ ih =>
      intro r hr
      rcases List.mem_append.1 hr with hr | hr
      · exact hnodes.carries r hr
      · exact ih r hr

end

def SentAs (secret : String) (line later : Line) : Prop :=
  ∃ requests, later.sent = line.sent ++ requests ∧ ∀ r ∈ requests, r.Carries secret

theorem SentAs.refl (secret : String) (line : Line) : SentAs secret line line :=
  ⟨[], (List.append_nil _).symm, by simp⟩

structure ChecksFirst [Text.Codecs] (root : Client) (secret database : String) (console : Console)
    (service : Service) (ending : Ending) (check : Request) (later : List Request) : Prop where
  sent : ending.line.sent = check :: later
  asRoot : check.Carries secret
  asks : check.AsksFor database
  asAdministrator : ∀ r ∈ later, r.Carries (secret ++ ":" ++ database ++ ":admin")
  refused : ¬ root.Finds (service [] check) →
    later = [] ∧ ending.prompts = [] ∧ ending.console = console ∧ ending.raised.isSome = true

section

variable [CharacterNames] [Text.Codecs]

theorem State.after_sentAs {s : State} (hrun : s.isRunning = true) (inputs : List Input) :
    SentAs s.client.secret s.line (s.after inputs).line := by
  obtain ⟨requests, hsent, hall⟩ :=
    foldl_lineAfter_dispatched s.client s.bindings (submissions s.buffer inputs) s.line
  rw [← (State.after_submissions hrun inputs).1] at hsent
  exact ⟨requests, hsent, hall.carries⟩

theorem converse_sentAs (client : Client) (database : String) (console : Console) (line : Line)
    (inputs : List Input) :
    SentAs client.secret line (converse client database console line inputs).line := by
  unfold converse
  split
  · exact .refl client.secret line
  · next console' _ =>
      obtain ⟨taken, -, hafter, -⟩ := State.readFrom_after []
        (State.start client Query.catalogueScope database console' line) inputs
      simp only
      rw [hafter]
      exact State.after_sentAs rfl taken

theorem runShell_unnamed (root : Client) (console : Console) (service : Service)
    (inputs : List Input) :
    ∀ r ∈ (runShell root "" console service inputs).line.sent, r.Carries root.secret := by
  obtain ⟨requests, hsent, hall⟩ := converse_sentAs root "" console (.idle service) inputs
  simp only [runShell, Connection.Client.access_unnamed, Line.release_sent, hsent]
  exact hall

theorem runShell_named {options : Options} {root : Client}
    (hroot : Client.root options = .ok root) {database : String} (hname : database ≠ "")
    (console : Console) (service : Service) (inputs : List Input) :
    ∃ check later, ChecksFirst root options.secret database console service
      (runShell root database console service inputs) check later := by
  obtain ⟨hoptions, -, hsecret⟩ := Connection.Client.root_eq hroot
  obtain ⟨check, hcarries, hasks, hgranted, hrefused⟩ := root.access_named (.idle service) hname
  have hfirst : ((Line.idle service).send root.identity check).2.sent = [check] := rfl
  rw [hsecret] at hcarries
  by_cases hfinds : root.Finds (service [] check)
  · have haccess := hgranted hfinds
    obtain ⟨later, hsent, hall⟩ := converse_sentAs (root.scopedTo database) database console
      ((Line.idle service).send root.identity check).2 inputs
    have hscoped : (root.scopedTo database).secret =
        options.secret ++ ":" ++ database ++ ":admin" := by
      rw [← hoptions]
      rfl
    rw [hscoped] at hall
    refine ⟨check, later, ?_, hcarries, hasks, hall, fun hlost => absurd hfinds hlost⟩
    simp only [runShell, haccess, Line.release_sent, hsent, hfirst, List.singleton_append]
  · obtain ⟨stop, haccess⟩ := hrefused hfinds
    refine ⟨check, [], ?_, hcarries, hasks, by simp, fun _ => ?_⟩
    · simp only [runShell, haccess, Line.release_sent, hfirst]
    · simp [runShell, haccess]

theorem runShell_identity {options : Options} {root : Client}
    (hroot : Client.root options = .ok root) (database : String) (console : Console)
    (service : Service) (inputs : List Input) :
    (database = "" → ∀ r ∈ (runShell root database console service inputs).line.sent,
      r.Carries options.secret) ∧
    (database ≠ "" → ∃ check later,
      ChecksFirst root options.secret database console service
        (runShell root database console service inputs) check later) := by
  obtain ⟨-, -, hsecret⟩ := Connection.Client.root_eq hroot
  constructor
  · rintro rfl
    rw [← hsecret]
    exact runShell_unnamed root console service inputs
  · intro hname
    exact runShell_named hroot hname console service inputs

end

theorem runShell_identity_quotedName :
    ∃ root, Client.root localClient.options = .ok root ∧
      ∃ check later, ChecksFirst root "secret" "a\"b" (.ofWidth 80) (Connection.scripted [])
        (runShell root "a\"b" (.ofWidth 80) (Connection.scripted []) troubledInputs)
        check later := by
  have hmade : (Client.root localClient.options).isOk = true := by decide +kernel
  have hname : "a\"b" ≠ "" := by decide
  cases hroot : Client.root localClient.options with
  | error fault =>
      rw [hroot] at hmade
      cases hmade
  | ok root =>
      have hidentity := runShell_identity hroot "a\"b" (.ofWidth 80) (Connection.scripted [])
        troubledInputs
      exact ⟨root, rfl, hidentity.2 hname⟩

end QueryShell.Session
