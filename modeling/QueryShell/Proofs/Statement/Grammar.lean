import QueryShell.Statement.Form

namespace QueryShell.Statement

inductive DerivesKey : Token → Key → Prop where
  | name {text : List Char} : DerivesKey (.name text) (.name text)
  | string {text : List Char} : DerivesKey (.string text) (.string text)

mutual

inductive Derives : List Token → Form → Prop where
  | name {text : List Char} : Derives [.name text] (.name text)
  | string {text : List Char} : Derives [.string text] (.string text)
  | number {text : List Char} : Derives [.number text] (.number text)
  | call {name : List Char} {ts : List Token} {args : List Form} :
      name ∉ Machine.keywords → DerivesItems ts args →
      Derives (.name name :: .mark .openCall :: (ts ++ [.mark .closeCall])) (.call name args)
  | array {ts : List Token} {items : List Form} : DerivesItems ts items →
      Derives (.mark .openArray :: (ts ++ [.mark .closeArray])) (.array items)
  | object {ts : List Token} {pairs : List (Key × Form)} : DerivesPairs ts pairs →
      Derives (.mark .openObject :: (ts ++ [.mark .closeObject])) (.object pairs)

inductive DerivesItems : List Token → List Form → Prop where
  | none : DerivesItems [] []
  | last {ts : List Token} {form : Form} : Derives ts form → DerivesItems ts [form]
  | more {ts us : List Token} {form : Form} {forms : List Form} : Derives ts form →
      DerivesItems us forms → DerivesItems (ts ++ .mark .comma :: us) (form :: forms)

inductive DerivesPairs : List Token → List (Key × Form) → Prop where
  | none : DerivesPairs [] []
  | last {k : Token} {key : Key} {ts : List Token} {form : Form} : DerivesKey k key →
      Derives ts form → DerivesPairs (k :: .mark .colon :: ts) [(key, form)]
  | more {k : Token} {key : Key} {ts us : List Token} {form : Form}
      {pairs : List (Key × Form)} : DerivesKey k key → Derives ts form → DerivesPairs us pairs →
      DerivesPairs (k :: .mark .colon :: (ts ++ .mark .comma :: us)) ((key, form) :: pairs)

end

inductive Program : List Token → List Form → Prop where
  | last {ts : List Token} {form : Form} : Derives ts form → Program ts [form]
  | closed {ts : List Token} {form : Form} : Derives ts form →
      Program (ts ++ [.mark .semicolon]) [form]
  | more {ts us : List Token} {form : Form} {forms : List Form} : Derives ts form →
      Program us forms → Program (ts ++ .mark .semicolon :: us) (form :: forms)

def Viable (ts : List Token) : Prop :=
  ∃ us forms, Program (ts ++ us) forms

theorem Viable.left {ts us : List Token} (h : Viable (ts ++ us)) : Viable ts := by
  obtain ⟨vs, forms, hp⟩ := h
  exact ⟨us ++ vs, forms, by rwa [← List.append_assoc]⟩

namespace Machine

def run (m : Machine) : List Token → Option Machine
  | [] => some m
  | t :: ts => (m.step t).bind fun next => next.run ts

theorem run_append (m : Machine) (ts us : List Token) :
    m.run (ts ++ us) = (m.run ts).bind fun next => next.run us := by
  induction ts generalizing m with
  | nil => rfl
  | cons t ts ih =>
      simp only [List.cons_append, run, Option.bind_assoc]
      congr 1
      funext next
      exact ih next

theorem run_cons_of_step {m next : Machine} {t : Token} (h : m.step t = some next)
    (ts : List Token) : m.run (t :: ts) = next.run ts := by
  simp only [run, h, Option.bind_some]

inductive Bracket where
  | call (name : List Char)
  | array

def Bracket.frame : Bracket → List Form → Frame
  | .call name, args => .call name args
  | .array, items => .array items

def Bracket.close : Bracket → Mark
  | .call _ => .closeCall
  | .array => .closeArray

def Bracket.form : Bracket → List Form → Form
  | .call name, args => .call name args
  | .array, items => .array items

def Bracket.opening : Bracket → List Token
  | .call name => [.name name, .mark .openCall]
  | .array => [.mark .openArray]

def Bracket.Allowed : Bracket → Prop
  | .call name => name ∉ keywords
  | .array => True

variable (statements : List Form) (frames : List Frame)

theorem step_close_bracket (b : Bracket) (done : List Form) :
    step ⟨statements, b.frame done :: frames, .form true⟩ (.mark b.close) =
      some ⟨statements, frames, .after (b.form done.reverse)⟩ := by
  cases b <;> rfl

theorem step_close_bracket_after (b : Bracket) (done : List Form) (form : Form) :
    step ⟨statements, b.frame done :: frames, .after form⟩ (.mark b.close) =
      some ⟨statements, frames, .after (b.form (done.reverse ++ [form]))⟩ := by
  rw [← List.reverse_cons]
  cases b <;> rfl

theorem step_comma_bracket (b : Bracket) (done : List Form) (form : Form) :
    step ⟨statements, b.frame done :: frames, .after form⟩ (.mark .comma) =
      some ⟨statements, b.frame (form :: done) :: frames, .form true⟩ := by
  cases b <;> rfl

theorem step_key {k : Token} {key : Key} (h : DerivesKey k key) (pairs : List (Key × Form)) :
    step ⟨statements, frames, .key pairs⟩ k = some ⟨statements, frames, .colon pairs key⟩ := by
  cases h <;> rfl

theorem step_close_object_after (pairs : List (Key × Form)) (key : Key) (form : Form) :
    step ⟨statements, .object pairs key :: frames, .after form⟩ (.mark .closeObject) =
      some ⟨statements, frames, .after (.object (pairs.reverse ++ [(key, form)]))⟩ := by
  rw [← List.reverse_cons]
  rfl

theorem step_open_call {name : List Char} (h : name ∉ keywords) :
    step ⟨statements, frames, .after (.name name)⟩ (.mark .openCall) =
      some ⟨statements, .call name [] :: frames, .form true⟩ := by
  have hkey : isKeyword name = false := by simpa [isKeyword] using h
  simp only [step, markAfter, hkey, Bool.false_eq_true, if_false]

theorem Bracket.derives {b : Bracket} (hb : b.Allowed) {ts : List Token} {items : List Form}
    (h : DerivesItems ts items) :
    Derives (b.opening ++ (ts ++ [.mark b.close])) (b.form items) := by
  cases b with
  | call name => exact .call hb h
  | array => exact .array h

theorem close?_cases {frame : Frame} {mark : Mark} {form : Form}
    (h : close? frame mark = some form) :
    (∃ b done, frame = Bracket.frame b done ∧ mark = b.close ∧ form = b.form done.reverse) ∨
      ∃ pairs key, frame = .object pairs key ∧ mark = .closeObject ∧
        form = .object pairs.reverse := by
  unfold close? at h
  split at h
  · next name args => cases h; exact .inl ⟨.call name, args, rfl, rfl, rfl⟩
  · next items => cases h; exact .inl ⟨.array, items, rfl, rfl, rfl⟩
  · next pairs key => cases h; exact .inr ⟨pairs, key, rfl, rfl, rfl⟩
  · cases h

theorem frame_cases (frame : Frame) :
    (∃ b done, frame = Bracket.frame b done) ∨ ∃ pairs key, frame = .object pairs key := by
  cases frame with
  | call name args => exact .inl ⟨.call name, args, rfl⟩
  | array items => exact .inl ⟨.array, items, rfl⟩
  | object pairs key => exact .inr ⟨pairs, key, rfl⟩

theorem Bracket.frame_inj {b b' : Bracket} {done done' : List Form}
    (h : b.frame done = b'.frame done') : b = b' ∧ done = done' := by
  cases b <;> cases b' <;> simp_all [Bracket.frame]

theorem Bracket.frame_ne_object {b : Bracket} {done : List Form} {pairs : List (Key × Form)}
    {key : Key} : b.frame done ≠ .object pairs key := by
  cases b <;> simp [Bracket.frame]

theorem push_bracket (b : Bracket) (done : List Form) (form : Form) :
    push form (b.frame done) = b.frame (form :: done) := by
  cases b <;> rfl

theorem openMark_cases {m next : Machine} {closable : Bool} {mark : Mark}
    (h : m.openMark closable mark = some next) :
    (mark = .openArray ∧ next = ⟨m.statements, .array [] :: m.frames, .form true⟩) ∨
      (mark = .openObject ∧ next = ⟨m.statements, m.frames, .key []⟩) ∨
      (closable = true ∧ ∃ frame frames form, m.frames = frame :: frames ∧
        close? frame mark = some form ∧ next = ⟨m.statements, frames, .after form⟩) := by
  unfold openMark at h
  split at h
  · cases h; exact .inl ⟨rfl, rfl⟩
  · cases h; exact .inr (.inl ⟨rfl, rfl⟩)
  · split at h
    · next frame frames hframes =>
        obtain ⟨form, hform, rfl⟩ := Option.map_eq_some_iff.1 h
        exact .inr (.inr ⟨rfl, frame, frames, form, hframes, hform, rfl⟩)
    · cases h

theorem markAfter_cases {m next : Machine} {form : Form} {mark : Mark}
    (h : m.markAfter form mark = some next) :
    (mark = .openCall ∧ ∃ text, form = .name text ∧ text ∉ keywords ∧
        next = ⟨m.statements, .call text [] :: m.frames, .form true⟩) ∨
      (mark = .semicolon ∧ m.frames = [] ∧ next = ⟨form :: m.statements, [], .form true⟩) ∨
      (mark = .comma ∧ ∃ frame frames, m.frames = frame :: frames ∧
        next = m.afterComma (push form frame) frames) ∨
      (∃ frame frames whole, m.frames = frame :: frames ∧
        close? (push form frame) mark = some whole ∧
        next = ⟨m.statements, frames, .after whole⟩) := by
  unfold markAfter at h
  split at h
  · next text =>
      split at h
      · cases h
      · next hkey =>
          cases h
          have hplain : text ∉ keywords := by simpa [isKeyword] using hkey
          exact .inl ⟨rfl, text, rfl, hplain, rfl⟩
  · next hframes =>
      cases h
      exact .inr (.inl ⟨rfl, hframes, by rw [hframes]⟩)
  · next frame frames hframes =>
      cases h
      exact .inr (.inr (.inl ⟨rfl, frame, frames, hframes, rfl⟩))
  · next frame frames _ _ hframes =>
      obtain ⟨whole, hwhole, rfl⟩ := Option.map_eq_some_iff.1 h
      exact .inr (.inr (.inr ⟨frame, frames, whole, hframes, hwhole, rfl⟩))
  · cases h

end Machine

mutual

theorem Derives.run {ts : List Token} {form : Form} (h : Derives ts form)
    (statements : List Form) (frames : List Frame) (closable : Bool) (more : List Token) :
    Machine.run ⟨statements, frames, .form closable⟩ (ts ++ more) =
      Machine.run ⟨statements, frames, .after form⟩ more := by
  cases h with
  | name => rfl
  | string => rfl
  | number => rfl
  | @call name ts args hname hitems =>
      have hinside := hitems.run statements frames (.call name) [] more
      have hread : Machine.step ⟨statements, frames, .form closable⟩ (.name name) =
          some ⟨statements, frames, .after (.name name)⟩ := rfl
      have hopen := Machine.step_open_call statements frames hname
      simp only [List.cons_append, List.append_assoc]
      rw [Machine.run_cons_of_step hread, Machine.run_cons_of_step hopen]
      exact hinside
  | array hitems =>
      have hinside := hitems.run statements frames .array [] more
      simp only [List.cons_append, List.append_assoc]
      exact hinside
  | object hpairs =>
      have hinside := hpairs.run statements frames [] more
      simp only [List.cons_append, List.append_assoc]
      exact hinside

theorem DerivesItems.run {ts : List Token} {forms : List Form} (h : DerivesItems ts forms)
    (statements : List Form) (frames : List Frame) (b : Machine.Bracket) (done : List Form)
    (more : List Token) :
    Machine.run ⟨statements, b.frame done :: frames, .form true⟩
        (ts ++ .mark b.close :: more) =
      Machine.run ⟨statements, frames, .after (b.form (done.reverse ++ forms))⟩ more := by
  cases h with
  | none =>
      rw [List.nil_append, List.append_nil,
        Machine.run_cons_of_step (Machine.step_close_bracket statements frames b done)]
  | last hform =>
      rw [hform.run, Machine.run_cons_of_step
        (Machine.step_close_bracket_after statements frames b done _)]
  | @more ts us form forms hform hitems =>
      have hrest := hitems.run statements frames b (form :: done) more
      rw [List.append_assoc, hform.run, List.cons_append, Machine.run_cons_of_step
        (Machine.step_comma_bracket statements frames b done form), hrest, List.reverse_cons,
        List.append_assoc, List.singleton_append]

theorem DerivesPairs.run {ts : List Token} {pairs : List (Key × Form)}
    (h : DerivesPairs ts pairs) (statements : List Form) (frames : List Frame)
    (done : List (Key × Form)) (more : List Token) :
    Machine.run ⟨statements, frames, .key done⟩ (ts ++ .mark .closeObject :: more) =
      Machine.run ⟨statements, frames, .after (.object (done.reverse ++ pairs))⟩ more := by
  cases h with
  | none =>
      rw [List.nil_append, List.append_nil]
      rfl
  | @last k key ts form hkey hform =>
      have hinside := hform.run statements (.object done key :: frames) false
        (.mark .closeObject :: more)
      rw [List.cons_append, Machine.run_cons_of_step (Machine.step_key statements frames hkey done)]
      refine hinside.trans ?_
      exact Machine.run_cons_of_step
        (Machine.step_close_object_after statements frames done key form) more
  | @more k key ts us form pairs hkey hform hpairs =>
      have hinside := hform.run statements (.object done key :: frames) false
        (.mark .comma :: (us ++ .mark .closeObject :: more))
      have hrest := hpairs.run statements frames ((key, form) :: done) more
      rw [List.reverse_cons, List.append_assoc, List.singleton_append] at hrest
      simp only [List.cons_append, List.append_assoc]
      rw [Machine.run_cons_of_step (Machine.step_key statements frames hkey done)]
      refine hinside.trans ?_
      exact hrest

end

theorem Program.run {ts : List Token} {forms : List Form} (h : Program ts forms)
    (statements : List Form) (closable : Bool) :
    ∃ m, Machine.run ⟨statements, [], .form closable⟩ ts = some m ∧
      m.finish = some (statements.reverse ++ forms) := by
  induction h generalizing statements closable with
  | @last ts form hform =>
      have hrun := hform.run statements [] closable []
      rw [List.append_nil] at hrun
      exact ⟨_, hrun, by rw [← List.reverse_cons]; rfl⟩
  | @closed ts form hform =>
      refine ⟨_, hform.run statements [] closable [.mark .semicolon], ?_⟩
      rw [← List.reverse_cons]
      rfl
  | @more ts us form forms hform _ ih =>
      obtain ⟨m, hm, hfinish⟩ := ih (form :: statements) true
      refine ⟨m, ?_, ?_⟩
      · rw [hform.run]
        exact hm
      · rw [hfinish, List.reverse_cons, List.append_assoc, List.singleton_append]

end QueryShell.Statement
