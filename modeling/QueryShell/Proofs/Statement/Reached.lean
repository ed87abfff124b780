import QueryShell.Proofs.Statement.Grammar

namespace QueryShell.Statement

inductive Ended (mark : Mark) : List Token → List Form → Prop where
  | nil : Ended mark [] []
  | snoc {ts us : List Token} {form : Form} {forms : List Form} : Ended mark ts forms →
      Derives us form → Ended mark (ts ++ (us ++ [.mark mark])) (form :: forms)

inductive EndedPairs : List Token → List (Key × Form) → Prop where
  | nil : EndedPairs [] []
  | snoc {ts us : List Token} {k : Token} {key : Key} {form : Form}
      {pairs : List (Key × Form)} : EndedPairs ts pairs → DerivesKey k key → Derives us form →
      EndedPairs (ts ++ (k :: .mark .colon :: (us ++ [.mark .comma]))) ((key, form) :: pairs)

theorem Ended.items {ts us : List Token} {done forms : List Form} (h : Ended .comma ts done)
    (hrest : DerivesItems us forms) : DerivesItems (ts ++ us) (done.reverse ++ forms) := by
  induction h generalizing us forms with
  | nil => exact hrest
  | @snoc ts vs form done _ hform ih =>
      have hmore := ih (.more hform hrest)
      simpa only [List.append_assoc, List.cons_append, List.nil_append, List.reverse_cons]
        using hmore

theorem Ended.statements {ts us : List Token} {done forms : List Form}
    (h : Ended .semicolon ts done) (hrest : Program us forms) :
    Program (ts ++ us) (done.reverse ++ forms) := by
  induction h generalizing us forms with
  | nil => exact hrest
  | @snoc ts vs form done _ hform ih =>
      have hmore := ih (.more hform hrest)
      simpa only [List.append_assoc, List.cons_append, List.nil_append, List.reverse_cons]
        using hmore

theorem Ended.program {ts : List Token} {done : List Form} (h : Ended .semicolon ts done)
    (hne : done ≠ []) : Program ts done.reverse := by
  cases h with
  | nil => exact absurd rfl hne
  | @snoc ts us form done hdone hform =>
      rw [List.reverse_cons]
      exact hdone.statements (.closed hform)

theorem EndedPairs.pairs {ts us : List Token} {done pairs : List (Key × Form)}
    (h : EndedPairs ts done) (hrest : DerivesPairs us pairs) :
    DerivesPairs (ts ++ us) (done.reverse ++ pairs) := by
  induction h generalizing us pairs with
  | nil => exact hrest
  | @snoc ts vs k key form done _ hkey hform ih =>
      have hmore := ih (.more hkey hform hrest)
      simpa only [List.append_assoc, List.cons_append, List.nil_append, List.reverse_cons]
        using hmore

inductive Opened : List Token → Frame → Prop where
  | call {name : List Char} {ts : List Token} {args : List Form} : name ∉ Machine.keywords →
      Ended .comma ts args → Opened (.name name :: .mark .openCall :: ts) (.call name args)
  | array {ts : List Token} {items : List Form} : Ended .comma ts items →
      Opened (.mark .openArray :: ts) (.array items)
  | object {ts : List Token} {pairs : List (Key × Form)} {k : Token} {key : Key} :
      EndedPairs ts pairs → DerivesKey k key →
      Opened (.mark .openObject :: (ts ++ [k, .mark .colon])) (.object pairs key)

inductive Stacked : List Token → List Frame → Prop where
  | nil : Stacked [] []
  | push {ts us : List Token} {frame : Frame} {frames : List Frame} : Stacked ts frames →
      Opened us frame → Stacked (ts ++ us) (frame :: frames)

inductive Pending : List Token → Turn → Prop where
  | form {closable : Bool} : Pending [] (.form closable)
  | after {ts : List Token} {form : Form} : Derives ts form → Pending ts (.after form)
  | key {ts : List Token} {pairs : List (Key × Form)} : EndedPairs ts pairs →
      Pending (.mark .openObject :: ts) (.key pairs)
  | colon {ts : List Token} {pairs : List (Key × Form)} {k : Token} {key : Key} :
      EndedPairs ts pairs → DerivesKey k key →
      Pending (.mark .openObject :: (ts ++ [k])) (.colon pairs key)

def Machine.Closable (m : Machine) : Prop :=
  m.turn = .form true →
    (m.frames = [] ∧ m.statements ≠ []) ∨ ∃ b done frames, m.frames = Bracket.frame b done :: frames

structure Reached (ts : List Token) (m : Machine) : Prop where
  parts : ∃ a b c, ts = a ++ (b ++ c) ∧ Ended .semicolon a m.statements ∧
    Stacked b m.frames ∧ Pending c m.turn
  closable : m.Closable

theorem reached_start : Reached [] .start :=
  ⟨⟨[], [], [], rfl, .nil, .nil, .form⟩, fun h => by cases h⟩

theorem Opened.bracket {us : List Token} {b : Machine.Bracket} {done : List Form}
    (h : Opened us (b.frame done)) :
    ∃ ts, us = b.opening ++ ts ∧ b.Allowed ∧ Ended .comma ts done := by
  cases b with
  | call name => cases h with | call hname hdone => exact ⟨_, rfl, hname, hdone⟩
  | array => cases h with | array hdone => exact ⟨_, rfl, trivial, hdone⟩

theorem opened_bracket {b : Machine.Bracket} (hb : b.Allowed) {ts : List Token}
    {done : List Form} (h : Ended .comma ts done) : Opened (b.opening ++ ts) (b.frame done) := by
  cases b with
  | call name => exact .call hb h
  | array => exact .array h

theorem Opened.close {us : List Token} {b : Machine.Bracket} {done : List Form}
    (h : Opened us (b.frame done)) : Derives (us ++ [.mark b.close]) (b.form done.reverse) := by
  obtain ⟨ts, rfl, hb, hdone⟩ := h.bracket
  have hitems := hdone.items .none
  rw [List.append_nil, List.append_nil] at hitems
  rw [List.append_assoc]
  exact Machine.Bracket.derives hb hitems

theorem Opened.close_after {us vs : List Token} {frame : Frame} {form whole : Form} {mark : Mark}
    (h : Opened us frame) (hform : Derives vs form)
    (hclose : Machine.close? (Machine.push form frame) mark = some whole) :
    Derives (us ++ (vs ++ [.mark mark])) whole := by
  rcases Machine.frame_cases frame with ⟨b, done, rfl⟩ | ⟨pairs, key, rfl⟩
  · rw [Machine.push_bracket] at hclose
    rcases Machine.close?_cases hclose with ⟨b', done', heq, rfl, rfl⟩ | ⟨_, _, heq, -, -⟩
    · obtain ⟨rfl, rfl⟩ := Machine.Bracket.frame_inj heq
      obtain ⟨ts, rfl, hb, hdone⟩ := h.bracket
      have hderives := Machine.Bracket.derives hb (hdone.items (.last hform))
      simpa only [List.append_assoc, List.reverse_cons] using hderives
    · exact absurd heq Machine.Bracket.frame_ne_object
  · rcases Machine.close?_cases hclose with ⟨b', done', heq, -, -⟩ | ⟨_, _, heq, rfl, rfl⟩
    · exact absurd heq.symm Machine.Bracket.frame_ne_object
    · cases heq
      cases h with
      | object hpairs hkey =>
          have hderives := Derives.object (hpairs.pairs (.last hkey hform))
          simpa only [List.append_assoc, List.cons_append, List.nil_append, List.reverse_cons]
            using hderives

theorem reached_after {a b c : List Token} {statements : List Form} {frames : List Frame}
    {form : Form} (ha : Ended .semicolon a statements) (hb : Stacked b frames)
    (hform : Derives c form) : Reached (a ++ (b ++ c)) ⟨statements, frames, .after form⟩ :=
  ⟨⟨a, b, c, rfl, ha, hb, .after hform⟩, fun h => by cases h⟩

theorem reached_afterComma {a b us c : List Token} {m : Machine} {frame : Frame}
    {frames : List Frame} {form : Form} (ha : Ended .semicolon a m.statements)
    (hb : Stacked b frames) (hframe : Opened us frame) (hform : Derives c form) :
    Reached (a ++ (b ++ (us ++ (c ++ [.mark .comma]))))
      (m.afterComma (Machine.push form frame) frames) := by
  rcases Machine.frame_cases frame with ⟨k, done, rfl⟩ | ⟨pairs, key, rfl⟩
  · obtain ⟨ts, rfl, hk, hdone⟩ := hframe.bracket
    have hopen := opened_bracket hk (hdone.snoc hform)
    have hnext : m.afterComma (Machine.push form (k.frame done)) frames =
        ⟨m.statements, k.frame (form :: done) :: frames, .form true⟩ := by
      cases k <;> rfl
    rw [hnext]
    refine ⟨⟨a, _, [], ?_, ha, hb.push hopen, .form⟩, fun _ => .inr ⟨k, _, _, rfl⟩⟩
    simp only [List.append_assoc, List.append_nil]
  · cases hframe with
    | object hpairs hkey =>
        refine ⟨⟨a, b, _, ?_, ha, hb, .key (hpairs.snoc hkey hform)⟩, fun h => by cases h⟩
        simp only [List.append_assoc, List.cons_append, List.nil_append]

theorem Reached.openMark {ts : List Token} {m next : Machine} {closable : Bool} {mark : Mark}
    (h : Reached ts m) (hturn : m.turn = .form closable)
    (hs : m.openMark closable mark = some next) : Reached (ts ++ [.mark mark]) next := by
  obtain ⟨⟨a, b, c, rfl, ha, hb, hc⟩, hcl⟩ := h
  rw [hturn] at hc
  cases hc
  simp only [List.append_assoc, List.nil_append]
  rcases Machine.openMark_cases hs with ⟨rfl, rfl⟩ | ⟨rfl, rfl⟩ |
    ⟨rfl, frame, frames, form, hframes, hclose, rfl⟩
  · refine ⟨⟨a, _, [], ?_, ha, hb.push (.array .nil), .form⟩, fun _ => .inr ⟨.array, _, _, rfl⟩⟩
    simp only [List.append_nil]
  · exact ⟨⟨a, b, _, rfl, ha, hb, .key .nil⟩, fun h => by cases h⟩
  · rcases hcl hturn with ⟨hnil, -⟩ | ⟨k, done, frames', hbracket⟩
    · rw [hnil] at hframes
      cases hframes
    · obtain ⟨rfl, rfl⟩ := List.cons.inj (hbracket.symm.trans hframes)
      rw [hframes] at hb
      cases hb with
      | push hb hopen =>
          rcases Machine.close?_cases hclose with ⟨k', done', heq, rfl, rfl⟩ | ⟨_, _, heq, -, -⟩
          · obtain ⟨rfl, rfl⟩ := Machine.Bracket.frame_inj heq
            rw [List.append_assoc]
            exact reached_after ha hb hopen.close
          · exact absurd heq Machine.Bracket.frame_ne_object

theorem Reached.markAfter {ts : List Token} {m next : Machine} {form : Form} {mark : Mark}
    (h : Reached ts m) (hturn : m.turn = .after form)
    (hs : m.markAfter form mark = some next) : Reached (ts ++ [.mark mark]) next := by
  obtain ⟨⟨a, b, c, rfl, ha, hb, hc⟩, -⟩ := h
  rw [hturn] at hc
  cases hc with
  | after hform =>
      simp only [List.append_assoc]
      rcases Machine.markAfter_cases hs with ⟨rfl, text, rfl, htext, rfl⟩ | ⟨rfl, hnil, rfl⟩ |
        ⟨rfl, frame, frames, hframes, rfl⟩ | ⟨frame, frames, whole, hframes, hclose, rfl⟩
      · cases hform
        refine ⟨⟨a, _, [], ?_, ha, hb.push (.call htext .nil), .form⟩,
          fun _ => .inr ⟨.call text, _, _, rfl⟩⟩
        simp only [List.cons_append, List.nil_append, List.append_nil]
      · rw [hnil] at hb
        cases hb
        refine ⟨⟨_, [], [], ?_, ha.snoc hform, .nil, .form⟩, fun _ => .inl ⟨rfl, by simp⟩⟩
        simp only [List.nil_append, List.append_nil]
      · rw [hframes] at hb
        cases hb with
        | push hb hopen =>
            rw [List.append_assoc]
            exact reached_afterComma ha hb hopen hform
      · rw [hframes] at hb
        cases hb with
        | push hb hopen =>
            rw [List.append_assoc]
            exact reached_after ha hb (hopen.close_after hform hclose)

theorem Reached.word {ts : List Token} {m : Machine} {closable : Bool} {t : Token} {form : Form}
    (h : Reached ts m) (hturn : m.turn = .form closable) (hform : Derives [t] form) :
    Reached (ts ++ [t]) { m with turn := .after form } := by
  obtain ⟨⟨a, b, c, rfl, ha, hb, hc⟩, -⟩ := h
  rw [hturn] at hc
  cases hc
  simp only [List.append_assoc, List.nil_append]
  exact reached_after ha hb hform

theorem Reached.key {ts : List Token} {m : Machine} {pairs : List (Key × Form)} {t : Token}
    {key : Key} (h : Reached ts m) (hturn : m.turn = .key pairs) (hkey : DerivesKey t key) :
    Reached (ts ++ [t]) { m with turn := .colon pairs key } := by
  obtain ⟨⟨a, b, c, rfl, ha, hb, hc⟩, -⟩ := h
  rw [hturn] at hc
  cases hc with
  | key hpairs =>
      refine ⟨⟨a, b, _, ?_, ha, hb, .colon hpairs hkey⟩, fun h => by cases h⟩
      simp only [List.append_assoc, List.cons_append]

theorem Reached.step {ts : List Token} {m next : Machine} {t : Token} (h : Reached ts m)
    (hs : m.step t = some next) : Reached (ts ++ [t]) next := by
  unfold Machine.step at hs
  split at hs
  · next hturn => cases hs; exact h.word hturn .name
  · next hturn => cases hs; exact h.word hturn .string
  · next hturn => cases hs; exact h.word hturn .number
  · next hturn => exact h.openMark hturn hs
  · next hturn => exact h.markAfter hturn hs
  · next hturn => cases hs; exact h.key hturn .name
  · next hturn => cases hs; exact h.key hturn .string
  · next pairs hturn =>
      cases hs
      obtain ⟨⟨a, b, c, rfl, ha, hb, hc⟩, -⟩ := h
      rw [hturn] at hc
      cases hc with
      | key hpairs =>
          have hform := Derives.object (hpairs.pairs .none)
          rw [List.append_nil, List.append_nil] at hform
          simp only [List.append_assoc, List.cons_append]
          exact reached_after ha hb hform
  · next pairs key hturn =>
      cases hs
      obtain ⟨⟨a, b, c, rfl, ha, hb, hc⟩, -⟩ := h
      rw [hturn] at hc
      cases hc with
      | colon hpairs hkey =>
          refine ⟨⟨a, _, [], ?_, ha, hb.push (.object hpairs hkey), .form⟩, fun h => by cases h⟩
          simp only [List.append_assoc, List.cons_append, List.nil_append, List.append_nil]
  · cases hs

theorem Reached.run {ts us : List Token} {m last : Machine} (h : Reached ts m)
    (hrun : m.run us = some last) : Reached (ts ++ us) last := by
  induction us generalizing ts m with
  | nil =>
      cases hrun
      rwa [List.append_nil]
  | cons u us ih =>
      obtain ⟨next, hstep, hrun⟩ := Option.bind_eq_some_iff.1 hrun
      have hnext := ih (h.step hstep) hrun
      rwa [List.append_assoc, List.singleton_append] at hnext

theorem Reached.program {ts : List Token} {m : Machine} {forms : List Form} (h : Reached ts m)
    (hfinish : m.finish = some forms) : Program ts forms := by
  obtain ⟨⟨a, b, c, rfl, ha, hb, hc⟩, hcl⟩ := h
  unfold Machine.finish at hfinish
  split at hfinish
  · next hframes hturn =>
      cases hfinish
      rw [hframes] at hb
      rw [hturn] at hc
      cases hb
      cases hc with
      | after hform =>
          rw [List.nil_append, List.reverse_cons]
          exact ha.statements (.last hform)
  · next hframes hturn =>
      cases hfinish
      rcases hcl hturn with ⟨-, hne⟩ | ⟨k, done, frames, hbracket⟩
      · rw [hframes] at hb
        rw [hturn] at hc
        cases hb
        cases hc
        rw [List.append_nil, List.append_nil]
        exact ha.program hne
      · rw [hframes] at hbracket
        cases hbracket
  · cases hfinish

theorem program_iff_run {ts : List Token} {forms : List Form} :
    Program ts forms ↔ ∃ m, Machine.start.run ts = some m ∧ m.finish = some forms := by
  constructor
  · intro h
    exact h.run [] false
  · rintro ⟨m, hrun, hfinish⟩
    have hreached := reached_start.run hrun
    exact hreached.program hfinish

def zeroToken : Token :=
  .number ['0']

def Turn.completion : Turn → List Token
  | .form _ => [zeroToken]
  | .after _ => []
  | .key _ => [.mark .closeObject]
  | .colon _ _ => [.mark .colon, zeroToken, .mark .closeObject]

def Frame.closing : Frame → Mark
  | .call .. => .closeCall
  | .array _ => .closeArray
  | .object .. => .closeObject

def Machine.completion (m : Machine) : List Token :=
  m.turn.completion ++ m.frames.map fun frame => .mark frame.closing

theorem Machine.run_turn_completion (m : Machine) :
    ∃ form, m.run m.turn.completion = some ⟨m.statements, m.frames, .after form⟩ := by
  obtain ⟨statements, frames, turn⟩ := m
  cases turn with
  | form closable => exact ⟨_, rfl⟩
  | after form => exact ⟨form, rfl⟩
  | key pairs => exact ⟨_, rfl⟩
  | colon pairs key => exact ⟨_, rfl⟩

theorem Machine.run_closing (statements : List Form) (frames : List Frame) (form : Form) :
    ∃ whole, Machine.run ⟨statements, frames, .after form⟩
      (frames.map fun frame => .mark frame.closing) = some ⟨statements, [], .after whole⟩ := by
  induction frames generalizing form with
  | nil => exact ⟨form, rfl⟩
  | cons frame frames ih =>
      have hstep : ∃ whole, Machine.step ⟨statements, frame :: frames, .after form⟩
          (.mark frame.closing) = some ⟨statements, frames, .after whole⟩ := by
        cases frame <;> exact ⟨_, rfl⟩
      obtain ⟨whole, hstep⟩ := hstep
      obtain ⟨last, hlast⟩ := ih whole
      exact ⟨last, by rw [List.map_cons, run_cons_of_step hstep, hlast]⟩

theorem Machine.run_completion (m : Machine) :
    ∃ last forms, m.run m.completion = some last ∧ last.finish = some forms := by
  obtain ⟨form, hturn⟩ := m.run_turn_completion
  obtain ⟨whole, hclosing⟩ := run_closing m.statements m.frames form
  refine ⟨⟨m.statements, [], .after whole⟩, (whole :: m.statements).reverse, ?_, rfl⟩
  rw [completion, run_append, hturn]
  exact hclosing

theorem viable_iff_run {ts : List Token} : Viable ts ↔ ∃ m, Machine.start.run ts = some m := by
  constructor
  · rintro ⟨us, forms, hp⟩
    obtain ⟨m, hrun, -⟩ := program_iff_run.1 hp
    rw [Machine.run_append] at hrun
    obtain ⟨next, hnext, -⟩ := Option.bind_eq_some_iff.1 hrun
    exact ⟨next, hnext⟩
  · rintro ⟨m, hrun⟩
    obtain ⟨last, forms, hlast, hfinish⟩ := m.run_completion
    refine ⟨m.completion, forms, program_iff_run.2 ⟨last, ?_, hfinish⟩⟩
    rw [Machine.run_append, hrun]
    exact hlast

end QueryShell.Statement
