import QueryShell.Proofs.Statement.Opening
import QueryShell.Session.State

namespace QueryShell.Session

open Statement (CharacterNames isBlank read)

theorem joinWith_concat (sep : List Char) {group : List (List Char)} (h : group ≠ [])
    (piece : List Char) :
    Text.joinWith sep (group ++ [piece]) = Text.joinWith sep group ++ (sep ++ piece) := by
  induction group with
  | nil => exact absurd rfl h
  | cons first rest ih =>
      cases rest with
      | nil => simp [Text.joinWith]
      | cons second rest =>
          have hrest := ih (by simp)
          simp only [List.cons_append, Text.joinWith] at hrest ⊢
          rw [hrest]
          simp only [List.append_assoc]

abbrev joined (group : List (List Char)) : List Char :=
  Text.joinWith ['\n'] group

theorem joined_concat {group : List (List Char)} (h : group ≠ []) (line : List Char) :
    joined (group ++ [line]) = joined group ++ '\n' :: line :=
  joinWith_concat ['\n'] h line

structure Grouping where
  ended : List (List (List Char))
  pending : List (List Char)

def Grouping.texts (g : Grouping) : List (List Char) :=
  g.ended.map joined ++ g.pending

theorem not_skipped {group : List (List Char)} {line : List Char}
    (hline : group = [] → isBlank line = false) : (group.isEmpty && isBlank line) = false := by
  cases group with
  | nil => rw [hline rfl, Bool.and_false]
  | cons first rest => rfl

namespace State

structure Agree (p q : Progress) : Prop where
  fault : p.2 = q.2
  state : q.2 = none → p.1 = q.1

def holding (s : State) (group : List (List Char)) : State :=
  if group = [] then s else { s with buffer := group, phase := .accumulating }

theorem buffer_holding {s : State} (hbuffer : s.buffer = []) (group : List (List Char)) :
    (s.holding group).buffer = group := by
  unfold holding
  split
  · next hgroup => rw [hbuffer, hgroup]
  · rfl

theorem isRunning_holding {s : State} (hrun : s.isRunning = true) (group : List (List Char)) :
    (s.holding group).isRunning = true := by
  unfold holding
  split
  · exact hrun
  · rfl

theorem holding_concat (s : State) (group : List (List Char)) (line : List Char) :
    s.holding (group ++ [line]) =
      { s.holding group with buffer := group ++ [line], phase := .accumulating } := by
  rw [holding, if_neg (by simp), holding]
  split <;> rfl

theorem report_settles (s : State) (outcome : Outcome) :
    (s.report outcome).1.buffer = s.buffer ∧ (s.report outcome).1.phase = s.phase := by
  unfold report
  split <;> exact ⟨rfl, rfl⟩

end State

section

variable [CharacterNames]

def groupFrom (group : List (List Char)) : List (List Char) → Grouping
  | [] => ⟨[], group⟩
  | line :: lines =>
      if group.isEmpty && isBlank line then groupFrom [] lines
      else
        match read (joined (group ++ [line])) with
        | .incomplete => groupFrom (group ++ [line]) lines
        | _ =>
            let later := groupFrom [] lines
            ⟨(group ++ [line]) :: later.ended, later.pending⟩

theorem groupFrom_blank {line : List Char} (hblank : isBlank line = true)
    (lines : List (List Char)) : groupFrom [] (line :: lines) = groupFrom [] lines := by
  simp only [groupFrom, hblank, List.isEmpty_nil, Bool.and_self, if_true]

theorem groupFrom_incomplete {group : List (List Char)} {line : List Char}
    (hline : group = [] → isBlank line = false)
    (hread : read (joined (group ++ [line])) = .incomplete) (lines : List (List Char)) :
    groupFrom group (line :: lines) = groupFrom (group ++ [line]) lines := by
  simp only [groupFrom, not_skipped hline, hread, Bool.false_eq_true, if_false]

theorem texts_groupFrom_ended {group : List (List Char)} {line : List Char}
    (hline : group = [] → isBlank line = false)
    (hread : read (joined (group ++ [line])) ≠ .incomplete) (lines : List (List Char)) :
    (groupFrom group (line :: lines)).texts =
      joined (group ++ [line]) :: (groupFrom [] lines).texts := by
  simp only [groupFrom, not_skipped hline, Bool.false_eq_true, if_false]
  rfl

inductive Held : List (List Char) → Prop where
  | nil : Held []
  | snoc {group : List (List Char)} {line : List Char} : Held group →
      (group = [] → isBlank line = false) → metaLine? line = none →
      read (joined (group ++ [line])) = .incomplete → Held (group ++ [line])

theorem Held.read_eq {group : List (List Char)} (h : Held group) (hne : group ≠ []) :
    read (joined group) = .incomplete := by
  cases h with
  | nil => exact absurd rfl hne
  | snoc _ _ _ hread => exact hread

theorem metaLine?_append {text : List Char} (h : read text = .incomplete) (more : List Char) :
    metaLine? (text ++ more) = none := by
  obtain ⟨w, c, r, rfl, hw, hc, hpoint⟩ := Statement.incomplete_opening h
  obtain ⟨rest, hrest, -⟩ := Text.trim_cons_of_not_blank hc (r ++ more)
  rw [List.append_assoc, metaLine?, Text.trim_append_of_blank hw, List.cons_append, hrest]
  split
  · next heq => exact absurd (List.cons.inj heq).1 hpoint
  · rfl

theorem Held.metaLine?_joined {group : List (List Char)} {line : List Char} (h : Held group)
    (hline : metaLine? line = none) : metaLine? (joined (group ++ [line])) = none := by
  by_cases hgroup : group = []
  · rw [hgroup]
    exact hline
  · rw [joined_concat hgroup]
    exact metaLine?_append (h.read_eq hgroup) ('\n' :: line)

theorem Held.isBlank_joined {group : List (List Char)} {line : List Char} (h : Held group)
    (hline : group = [] → isBlank line = false) : isBlank (joined (group ++ [line])) = false := by
  by_cases hgroup : group = []
  · rw [hgroup]
    exact hline hgroup
  · rw [joined_concat hgroup, Statement.isBlank_append,
      Statement.not_blank_of_incomplete (h.read_eq hgroup), Bool.false_and]

namespace State

variable [Text.Codecs]

def feed (s : State) : List (List Char) → Progress
  | [] => (s, none)
  | line :: lines =>
      match s.handleLine line with
      | (next, none) => next.feed lines
      | (next, some fault) => (next, some fault)

variable {s : State} {group : List (List Char)} {line : List Char}

theorem handleLine_eq_accept (hrun : s.isRunning = true) (hmeta : metaLine? line = none)
    (hline : s.buffer = [] → isBlank line = false) : s.handleLine line = s.accept line := by
  simp only [handleLine, hrun, hmeta, not_skipped hline, if_true, Bool.false_eq_true, if_false]

theorem handleLine_blank (hrun : s.isRunning = true) (hmeta : metaLine? line = none)
    (hbuffer : s.buffer = []) (hblank : isBlank line = true) :
    s.handleLine line = (s, none) := by
  simp only [handleLine, hrun, hmeta, hbuffer, hblank, List.isEmpty_nil, Bool.and_self, if_true]

theorem accept_of_incomplete (h : read (joined (s.buffer ++ [line])) = .incomplete) :
    s.accept line =
      ({ s with buffer := s.buffer ++ [line], phase := .accumulating }, none) := by
  simp only [accept, h]

theorem accept_settles (h : read (joined (s.buffer ++ [line])) ≠ .incomplete)
    (hfault : (s.accept line).2 = none) :
    (s.accept line).1.buffer = [] ∧ (s.accept line).1.phase = .idle := by
  unfold accept at hfault ⊢
  cases hread : read (joined (s.buffer ++ [line])) with
  | incomplete => exact absurd hread h
  | malformed e => simp only [hread]; exact ⟨rfl, rfl⟩
  | parsed nodes => simp only [hread]; exact report_settles _ _
  | escaped fault => simp only [hread] at hfault; cases hfault

theorem agree_accept (hbuffer : s.buffer = [])
    (h : read (joined (group ++ [line])) ≠ .incomplete) :
    Agree (s.accept (joined (group ++ [line]))) ((s.holding group).accept line) := by
  have hwhole : joined (s.buffer ++ [joined (group ++ [line])]) = joined (group ++ [line]) := by
    rw [hbuffer]
    rfl
  have hheld := buffer_holding hbuffer group
  unfold accept
  cases hread : read (joined (group ++ [line])) with
  | incomplete => exact absurd hread h
  | malformed e =>
      simp only [hwhole, hheld, hread]
      unfold holding
      split <;> exact ⟨rfl, fun _ => rfl⟩
  | parsed nodes =>
      simp only [hwhole, hheld, hread]
      unfold holding
      split <;> exact ⟨rfl, fun _ => rfl⟩
  | escaped fault =>
      simp only [hwhole, hheld, hread]
      exact ⟨rfl, fun hnone => by cases hnone⟩

theorem feed_append (a b : List (List Char)) :
    s.feed (a ++ b) =
      match s.feed a with
      | (next, none) => next.feed b
      | (next, some fault) => (next, some fault) := by
  induction a generalizing s with
  | nil => rfl
  | cons line a ih =>
      simp only [List.cons_append, feed]
      split
      · exact ih
      · rfl

theorem handleLine_holding (hrun : s.isRunning = true) (hbuffer : s.buffer = [])
    (hmeta : metaLine? line = none) (hline : group = [] → isBlank line = false)
    (hread : read (joined (group ++ [line])) = .incomplete) :
    (s.holding group).handleLine line = (s.holding (group ++ [line]), none) := by
  have hheld := buffer_holding hbuffer group
  rw [handleLine_eq_accept (isRunning_holding hrun group) hmeta (by rwa [hheld]),
    accept_of_incomplete (by rwa [hheld]), hheld, holding_concat]

theorem feed_held (hrun : s.isRunning = true) (hbuffer : s.buffer = []) (h : Held group) :
    s.feed group = (s.holding group, none) := by
  induction h with
  | nil => rfl
  | snoc _ hline hmeta hread ih =>
      rw [feed_append, ih]
      simp only [feed, handleLine_holding hrun hbuffer hmeta hline hread]

theorem agree_handleLine (hrun : s.isRunning = true) (hbuffer : s.buffer = []) (h : Held group)
    (hmeta : metaLine? line = none) (hline : group = [] → isBlank line = false)
    (hread : read (joined (group ++ [line])) ≠ .incomplete) :
    Agree (s.handleLine (joined (group ++ [line]))) ((s.holding group).handleLine line) := by
  have hheld := buffer_holding hbuffer group
  rw [handleLine_eq_accept hrun (h.metaLine?_joined hmeta) fun _ => h.isBlank_joined hline,
    handleLine_eq_accept (isRunning_holding hrun group) hmeta (by rwa [hheld])]
  exact agree_accept hbuffer hread

theorem settled_handleLine (hrun : s.isRunning = true) (hbuffer : s.buffer = [])
    (hmeta : metaLine? line = none) (hline : isBlank line = false)
    (hread : read line ≠ .incomplete) (hfault : (s.handleLine line).2 = none) :
    (s.handleLine line).1.isRunning = true ∧ (s.handleLine line).1.buffer = [] := by
  rw [handleLine_eq_accept hrun hmeta fun _ => hline] at hfault ⊢
  have hwhole : read (joined (s.buffer ++ [line])) ≠ .incomplete := by
    rwa [hbuffer]
  obtain ⟨hempty, hphase⟩ := accept_settles hwhole hfault
  exact ⟨by rw [isRunning, hphase]; rfl, hempty⟩

theorem Agree.feed {t : State} {first second : List Char} {a b : List (List Char)}
    (h : Agree (s.handleLine first) (t.handleLine second))
    (hrest : (s.handleLine first).2 = none →
      Agree ((s.handleLine first).1.feed a) ((s.handleLine first).1.feed b)) :
    Agree (s.feed (first :: a)) (t.feed (second :: b)) := by
  obtain ⟨hfault, hstate⟩ := h
  simp only [State.feed]
  cases hs : s.handleLine first with
  | mk next fault =>
      cases ht : t.handleLine second with
      | mk next' fault' =>
          rw [hs, ht] at hfault hstate
          rw [hs] at hrest
          cases hfault
          cases fault with
          | some fault => exact ⟨rfl, fun hnone => by cases hnone⟩
          | none =>
              cases hstate rfl
              exact hrest rfl

theorem agree_feed {lines : List (List Char)} (hrun : s.isRunning = true)
    (hbuffer : s.buffer = []) (h : Held group)
    (hlines : ∀ line ∈ lines, metaLine? line = none) :
    Agree (s.feed (groupFrom group lines).texts) ((s.holding group).feed lines) := by
  induction lines generalizing s group with
  | nil =>
      rw [groupFrom, Grouping.texts, List.map_nil, List.nil_append, feed_held hrun hbuffer h]
      exact ⟨rfl, fun _ => rfl⟩
  | cons line lines ih =>
      have hmeta : metaLine? line = none := hlines line (by simp)
      have hlater : ∀ l ∈ lines, metaLine? l = none := fun l hl => hlines l (by simp [hl])
      by_cases hskip : group = [] ∧ isBlank line = true
      · obtain ⟨rfl, hblank⟩ := hskip
        have hfeed : (s.holding []).feed (line :: lines) = s.feed lines := by
          simp only [feed, holding, if_true, handleLine_blank hrun hmeta hbuffer hblank]
        rw [groupFrom_blank hblank, hfeed]
        exact ih hrun hbuffer h hlater
      · have hline : group = [] → isBlank line = false := by
          intro hnil
          rw [Bool.eq_false_iff]
          exact fun hblank => hskip ⟨hnil, hblank⟩
        by_cases hread : read (joined (group ++ [line])) = .incomplete
        · have hfeed : (s.holding group).feed (line :: lines) =
              (s.holding (group ++ [line])).feed lines := by
            simp only [feed, handleLine_holding hrun hbuffer hmeta hline hread]
          rw [groupFrom_incomplete hline hread, hfeed]
          exact ih hrun hbuffer (h.snoc hline hmeta hread) hlater
        · rw [texts_groupFrom_ended hline hread]
          refine (agree_handleLine hrun hbuffer h hmeta hline hread).feed fun hfault => ?_
          obtain ⟨hrun', hbuffer'⟩ := settled_handleLine hrun hbuffer (h.metaLine?_joined hmeta)
            (h.isBlank_joined hline) hread hfault
          exact ih hrun' hbuffer' .nil hlater

theorem feed_grouped {lines : List (List Char)} (hrun : s.isRunning = true)
    (hbuffer : s.buffer = []) (hlines : ∀ line ∈ lines, metaLine? line = none) :
    Agree (s.feed (groupFrom [] lines).texts) (s.feed lines) :=
  agree_feed hrun hbuffer .nil hlines

end State

end

def localClient : Connection.Client where
  options :=
    { secret := "secret", domain := "localhost", scheme := "http", port := 8443, timeout := none }
  identity := .root
  secret := "secret"
  url :=
    { scheme := "http", userinfo := [], host := "localhost".toList, port := some 8443,
      path := ['/'], query := none, fragment := none }

def freshSession : State :=
  .start localClient [] "" (.ofWidth 80) (.idle Connection.outOfReach)

def typedLines : List (List Char) :=
  [['/', '/', ' ', 'A', 'd', 'd'], ['A', 'd', 'd', '(', '1', ','], ['2', ')'], [')'],
    ['G', 'e', 't', '(']]

theorem feed_grouped_typedLines :
    freshSession.isRunning = true ∧ freshSession.buffer = [] ∧
      (∀ line ∈ typedLines, metaLine? line = none) ∧
      (groupFrom [] typedLines).texts =
        [['A', 'd', 'd', '(', '1', ',', '\n', '2', ')'], [')'], ['G', 'e', 't', '(']] ∧
      State.Agree (freshSession.feed (groupFrom [] typedLines).texts)
        (freshSession.feed typedLines) := by
  have hrun : freshSession.isRunning = true := rfl
  have hbuffer : freshSession.buffer = [] := rfl
  have hlines : ∀ line ∈ typedLines, metaLine? line = none := by decide
  have htexts : (groupFrom [] typedLines).texts =
      [['A', 'd', 'd', '(', '1', ',', '\n', '2', ')'], [')'], ['G', 'e', 't', '(']] := by
    decide +kernel
  exact ⟨hrun, hbuffer, hlines, htexts, State.feed_grouped hrun hbuffer hlines⟩

end QueryShell.Session
