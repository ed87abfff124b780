import QueryShell.Session.Command

namespace QueryShell.Session.Registry

variable {α : Type} {builtins custom commands : List (Command α)} {registry : Registry α}
  {allowed denied : List String} {name : String} {command : Command α}

def LastNamed (commands : List (Command α)) (name : String) (command : Command α) : Prop :=
  ∃ earlier later, commands = earlier ++ command :: later ∧ command.name = name ∧
    ∀ c ∈ later, c.name ≠ name

theorem LastNamed.mem (h : LastNamed commands name command) : command ∈ commands := by
  obtain ⟨earlier, later, rfl, -⟩ := h
  simp

theorem LastNamed.name_eq (h : LastNamed commands name command) : command.name = name := by
  obtain ⟨_, _, _, hname, _⟩ := h
  exact hname

theorem not_lastNamed_nil : ¬ LastNamed [] name command :=
  fun h => List.not_mem_nil h.mem

theorem lastNamed_cons {c : Command α} :
    LastNamed (c :: commands) name command ↔
      LastNamed commands name command ∨
        (∀ d ∈ commands, d.name ≠ name) ∧ c.name = name ∧ c = command := by
  constructor
  · rintro ⟨earlier, later, heq, hname, hlater⟩
    cases earlier with
    | nil =>
        obtain ⟨rfl, rfl⟩ := List.cons.inj heq
        exact .inr ⟨hlater, hname, rfl⟩
    | cons e earlier =>
        obtain ⟨rfl, rfl⟩ := List.cons.inj heq
        exact .inl ⟨earlier, later, rfl, hname, hlater⟩
  · rintro (⟨earlier, later, rfl, hname, hlater⟩ | ⟨hlater, hname, rfl⟩)
    · exact ⟨c :: earlier, later, rfl, hname, hlater⟩
    · exact ⟨[], commands, rfl, hname, hlater⟩

theorem exists_lastNamed (h : ∃ c ∈ commands, c.name = name) :
    ∃ command, LastNamed commands name command := by
  induction commands with
  | nil => simp at h
  | cons c commands ih =>
      by_cases hlater : ∃ d ∈ commands, d.name = name
      · obtain ⟨command, hlast⟩ := ih hlater
        exact ⟨command, lastNamed_cons.2 (.inl hlast)⟩
      · obtain ⟨d, hd, hname⟩ := h
        rcases List.mem_cons.1 hd with rfl | hd
        · have hnone : ∀ e ∈ commands, e.name ≠ name := fun e he heq => hlater ⟨e, he, heq⟩
          exact ⟨d, lastNamed_cons.2 (.inr ⟨hnone, hname, rfl⟩)⟩
        · exact absurd ⟨d, hd, hname⟩ hlater

theorem admits_iff :
    admits allowed denied command = true ↔ command.name ∈ allowed ∧ command.name ∉ denied := by
  simp [admits]

theorem lastNamed_admitted :
    LastNamed (builtins.filter (admits allowed denied)) name command ↔
      name ∈ allowed ∧ name ∉ denied ∧ LastNamed builtins name command := by
  constructor
  · rintro ⟨earlier, later, heq, hname, hlater⟩
    obtain ⟨front, back, rfl, -, hback⟩ := List.filter_eq_append_iff.1 heq
    obtain ⟨skipped, rest, rfl, -, hadmits, rfl⟩ := List.filter_eq_cons_iff.1 hback
    have hboth := admits_iff.1 hadmits
    rw [hname] at hboth
    refine ⟨hboth.1, hboth.2, front ++ skipped, rest, by simp, hname, fun c hc hcname => ?_⟩
    have hadmitted : admits allowed denied c = true := admits_iff.2 (hcname ▸ hboth)
    exact hlater c (List.mem_filter.2 ⟨hc, hadmitted⟩) hcname
  · rintro ⟨hallowed, hdenied, earlier, later, rfl, rfl, hlater⟩
    refine ⟨earlier.filter (admits allowed denied), later.filter (admits allowed denied), ?_, rfl,
      fun c hc => hlater c (List.mem_filter.1 hc).1⟩
    rw [List.filter_append, List.filter_cons_of_pos (admits_iff.2 ⟨hallowed, hdenied⟩)]

theorem get?_cons (c : Command α) (registry : Registry α) (name : String) :
    get? (c :: registry) name = if c.name = name then some c else get? registry name := by
  by_cases h : c.name = name <;> simp [get?, h]

theorem get?_insert (command : Command α) (registry : Registry α) (name : String) :
    get? (insert command registry) name =
      if command.name = name then some command else get? registry name := by
  induction registry with
  | nil => exact get?_cons command [] name
  | cons c registry ih =>
      rw [insert]
      split
      · next heq =>
          rw [get?_cons, get?_cons, ← heq]
          split <;> rfl
      · next hne =>
          split
          · exact get?_cons command (c :: registry) name
          · rw [get?_cons, get?_cons, ih]
            by_cases hname : command.name = name
            · rw [if_pos hname, if_pos hname, if_neg fun h => hne (hname.trans h.symm)]
            · rw [if_neg hname, if_neg hname]

theorem get?_insertAll :
    get? (insertAll registry commands) name = some command ↔
      LastNamed commands name command ∨
        (∀ c ∈ commands, c.name ≠ name) ∧ get? registry name = some command := by
  induction commands generalizing registry with
  | nil => simp [insertAll, not_lastNamed_nil]
  | cons c commands ih =>
      have hstep :
          insertAll registry (c :: commands) = insertAll (insert c registry) commands := rfl
      rw [hstep, ih, get?_insert, lastNamed_cons, List.forall_mem_cons]
      by_cases hname : c.name = name
      · simp [hname]
      · simp [hname]

def Increasing (registry : Registry α) : Prop :=
  registry.Pairwise fun c d => c.name < d.name

theorem mem_insert {d : Command α} (h : d ∈ insert command registry) :
    d = command ∨ d ∈ registry := by
  induction registry with
  | nil => exact .inl (List.mem_singleton.1 h)
  | cons c registry ih =>
      rw [insert] at h
      split at h
      · exact (List.mem_cons.1 h).imp_right (List.mem_cons_of_mem c)
      · split at h
        · exact List.mem_cons.1 h
        · rcases List.mem_cons.1 h with rfl | h
          · exact .inr (List.mem_cons_self ..)
          · exact (ih h).imp_right (List.mem_cons_of_mem c)

theorem Increasing.insert (h : registry.Increasing) (command : Command α) :
    Increasing (registry.insert command) := by
  induction registry with
  | nil => exact List.pairwise_singleton ..
  | cons c registry ih =>
      obtain ⟨hc, hrest⟩ := List.pairwise_cons.1 h
      rw [Registry.insert]
      split
      · next heq =>
          exact List.pairwise_cons.2 ⟨fun d hd => heq ▸ hc d hd, hrest⟩
      · next hne =>
          split
          · next hlt =>
              refine List.pairwise_cons.2 ⟨fun d hd => ?_, h⟩
              rcases List.mem_cons.1 hd with rfl | hd
              · exact hlt
              · exact String.lt_trans hlt (hc d hd)
          · next hnot =>
              have hgt : c.name < command.name := by
                refine Decidable.byContradiction fun hle => hne ?_
                exact String.le_antisymm (String.not_lt.1 hle) (String.not_lt.1 hnot)
              refine List.pairwise_cons.2 ⟨fun d hd => ?_, ih hrest⟩
              rcases mem_insert hd with rfl | hd
              · exact hgt
              · exact hc d hd

theorem Increasing.insertAll (h : registry.Increasing) (commands : List (Command α)) :
    Increasing (registry.insertAll commands) := by
  induction commands generalizing registry with
  | nil => exact h
  | cons c commands ih => exact ih (h.insert c)

theorem increasing_build (builtins custom : List (Command α)) (allowed denied : List String) :
    (build builtins custom allowed denied).Increasing := by
  have hnone : Increasing ([] : Registry α) := .nil
  exact (hnone.insertAll _).insertAll custom

theorem mem_names_iff :
    name ∈ registry.names ↔ ∃ command, registry.get? name = some command := by
  rw [← Option.isSome_iff_exists, get?, List.find?_isSome, names, List.mem_map]
  simp

theorem name_of_get? (h : registry.get? name = some command) :
    command ∈ registry ∧ command.name = name :=
  ⟨List.mem_of_find?_eq_some h, by simpa using List.find?_some h⟩

theorem Increasing.get?_eq (h : registry.Increasing) (hc : command ∈ registry) :
    registry.get? command.name = some command := by
  induction registry with
  | nil => cases hc
  | cons c registry ih =>
      obtain ⟨hfirst, hrest⟩ := List.pairwise_cons.1 h
      rw [get?_cons]
      rcases List.mem_cons.1 hc with rfl | hc
      · exact if_pos rfl
      · rw [if_neg, ih hrest hc]
        intro heq
        have hlt := hfirst command hc
        rw [heq] at hlt
        exact String.lt_irrefl _ hlt

structure Coherent (registry : Registry α) : Prop where
  increasing : registry.names.Pairwise (· < ·)
  listed : registry.names.map registry.get? = registry.map some
  counted : registry.length = registry.names.length
  contained : ∀ name, registry.contains name = true ↔ name ∈ registry.names
  found : ∀ name command,
    registry.get? name = some command ↔ command ∈ registry ∧ command.name = name

theorem Increasing.coherent (h : registry.Increasing) : registry.Coherent where
  increasing := List.pairwise_map.2 h
  listed := by
    rw [names, List.map_map]
    exact List.map_congr_left fun c hc => h.get?_eq hc
  counted := (List.length_map ..).symm
  contained name := by simp [contains, names]
  found name command := by
    constructor
    · exact name_of_get?
    · rintro ⟨hc, rfl⟩
      exact h.get?_eq hc

inductive Registers (builtins custom : List (Command α)) (allowed denied : List String)
    (name : String) (command : Command α) : Prop where
  | custom : LastNamed custom name command → Registers builtins custom allowed denied name command
  | builtin : (∀ c ∈ custom, c.name ≠ name) → name ∈ allowed → name ∉ denied →
      LastNamed builtins name command → Registers builtins custom allowed denied name command

theorem get?_build :
    (build builtins custom allowed denied).get? name = some command ↔
      Registers builtins custom allowed denied name command := by
  rw [build, get?_insertAll, get?_insertAll, lastNamed_admitted]
  constructor
  · rintro (h | ⟨hnone, ⟨hallowed, hdenied, h⟩ | ⟨-, h⟩⟩)
    · exact .custom h
    · exact .builtin hnone hallowed hdenied h
    · cases h
  · rintro (h | ⟨hnone, hallowed, hdenied, h⟩)
    · exact .inl h
    · exact .inr ⟨hnone, .inl ⟨hallowed, hdenied, h⟩⟩

theorem exists_registers_iff :
    (∃ command, Registers builtins custom allowed denied name command) ↔
      (∃ c ∈ custom, c.name = name) ∨
        (∃ c ∈ builtins, c.name = name) ∧ name ∈ allowed ∧ name ∉ denied := by
  constructor
  · rintro ⟨command, h | ⟨-, hallowed, hdenied, h⟩⟩
    · exact .inl ⟨command, h.mem, h.name_eq⟩
    · exact .inr ⟨⟨command, h.mem, h.name_eq⟩, hallowed, hdenied⟩
  · intro h
    by_cases hcustom : ∃ c ∈ custom, c.name = name
    · obtain ⟨command, hlast⟩ := exists_lastNamed hcustom
      exact ⟨command, .custom hlast⟩
    · obtain ⟨hbuiltin, hallowed, hdenied⟩ := h.resolve_left hcustom
      obtain ⟨command, hlast⟩ := exists_lastNamed hbuiltin
      exact ⟨command, .builtin (fun c hc heq => hcustom ⟨c, hc, heq⟩) hallowed hdenied hlast⟩

theorem Registers.mem_custom (h : Registers builtins custom allowed denied name command)
    (hbarred : command.name ∈ denied ∨ command.name ∉ allowed) : command ∈ custom := by
  cases h with
  | custom h => exact h.mem
  | builtin _ hallowed hdenied h =>
      rw [h.name_eq] at hbarred
      rcases hbarred with hbarred | hbarred
      · exact absurd hbarred hdenied
      · exact absurd hallowed hbarred

theorem build_congr {allowed' denied' : List String}
    (hallowed : ∀ name, name ∈ allowed' ↔ name ∈ allowed)
    (hdenied : ∀ name, name ∈ denied' ↔ name ∈ denied) :
    build builtins custom allowed' denied' = build builtins custom allowed denied := by
  have hadmits : admits (α := α) allowed' denied' = admits allowed denied := by
    funext command
    rw [Bool.eq_iff_iff, admits_iff, admits_iff, hallowed, hdenied]
  rw [build, build, hadmits]

structure Overlaid (builtins custom : List (Command α)) (allowed denied : List String)
    (registry : Registry α) : Prop where
  named : ∀ name, name ∈ registry.names ↔ (∃ c ∈ custom, c.name = name) ∨
    (∃ c ∈ builtins, c.name = name) ∧ name ∈ allowed ∧ name ∉ denied
  registers : ∀ name command, registry.get? name = some command ↔
    Registers builtins custom allowed denied name command
  guarded : ∀ c ∈ builtins, c.name ∈ denied ∨ c.name ∉ allowed → c ∉ custom →
    c ∉ registry ∧ ∀ name, registry.get? name ≠ some c

theorem build_overlaid (builtins custom : List (Command α)) (allowed denied : List String) :
    Coherent (build builtins custom allowed denied) ∧
      Overlaid builtins custom allowed denied (build builtins custom allowed denied) ∧
      ∀ allowed' denied' : List String, (∀ name, name ∈ allowed' ↔ name ∈ allowed) →
        (∀ name, name ∈ denied' ↔ name ∈ denied) →
        build builtins custom allowed' denied' = build builtins custom allowed denied := by
  have hcoherent := (increasing_build builtins custom allowed denied).coherent
  refine ⟨hcoherent, ⟨fun name => ?_, fun name command => get?_build, fun c _ hbarred hnew => ?_⟩,
    fun allowed' denied' => build_congr⟩
  · simp only [mem_names_iff, get?_build]
    exact exists_registers_iff
  · have hget : ∀ name, get? (build builtins custom allowed denied) name ≠ some c :=
      fun name h => hnew ((get?_build.1 h).mem_custom hbarred)
    exact ⟨fun hc => hget c.name ((hcoherent.found c.name c).2 ⟨hc, rfl⟩), hget⟩

def hostCommands : List (Command Nat) :=
  [⟨"exit", "Exit", 0⟩, ⟨"clear", "Reset the context", 1⟩, ⟨"exit", "Leave", 2⟩,
    ⟨"history", "Show the history", 3⟩]

def ownCommands : List (Command Nat) :=
  [⟨"clear", "Clear the screen", 4⟩, ⟨"clear", "Clear the repl", 5⟩]

theorem build_overlaid_hostCommands :
    (∀ name : String, name ∈ ["exit", "clear", "exit"] ↔ name ∈ ["clear", "exit"]) ∧
      (∀ name : String, name ∈ ["clear", "load"] ↔ name ∈ ["load", "clear"]) ∧
      build hostCommands ownCommands ["exit", "clear", "exit"] ["clear", "load"] =
        [⟨"clear", "Clear the repl", 5⟩, ⟨"exit", "Leave", 2⟩] ∧
      (build hostCommands ownCommands ["clear", "exit"] ["load", "clear"]).get? "history" = none ∧
      Overlaid hostCommands ownCommands ["clear", "exit"] ["load", "clear"]
        (build hostCommands ownCommands ["exit", "clear", "exit"] ["clear", "load"]) := by
  have hallowed : ∀ name : String,
      name ∈ ["exit", "clear", "exit"] ↔ name ∈ ["clear", "exit"] := by
    intro name
    simp only [List.mem_cons, List.not_mem_nil, or_false]
    constructor
    · rintro (h | h | h) <;> simp [h]
    · rintro (h | h) <;> simp [h]
  have hdenied : ∀ name : String, name ∈ ["clear", "load"] ↔ name ∈ ["load", "clear"] := by
    intro name
    simp only [List.mem_cons, List.not_mem_nil, or_false]
    exact or_comm
  obtain ⟨-, hoverlaid, hsets⟩ :=
    build_overlaid hostCommands ownCommands ["clear", "exit"] ["load", "clear"]
  have heq := hsets ["exit", "clear", "exit"] ["clear", "load"] hallowed hdenied
  exact ⟨hallowed, hdenied, by decide, by decide, heq ▸ hoverlaid⟩

end QueryShell.Session.Registry
