/-
The table of agent.c refines the registry, and what follows for the life of an agent:
every id is issued once, and its agent is initialized, started and stopped at most once,
in that order.
-/

import AgentNucleus.Top.AgentTable
import Mathlib.Data.List.Induction

set_option autoImplicit false

namespace AgentNucleus.Top

open AgentNucleus.Library
open AgentTable (AgentState AgentOps AgentConfig)

/-- The slot is not free. -/
def Agent.used (agent : Agent) : Bool :=
  agent.id != 0

/-- What no call changes: there are no callbacks, so that nothing waits or fails. -/
structure Agent.Plain (agent : Agent) : Prop where
  ops : agent.ops = none
  busy : agent.state ≠ .waiting
  sound : agent.state ≠ .error

/-- The table stands for the registry. -/
structure AgentTable.Represents (table : AgentTable) (registry : AgentRegistry) : Prop where
  shape : table.agents.length = MAX_AGENTS
  opened : registry.opened = table.initialized
  next : registry.next = table.nextId
  issued : table.initialized = true → table.nextId ≠ 0
  numbered : Numbered Agent.used Agent.id table.agents table.nextId
  agents : ∀ id, id ≠ 0 → registry.agents id = table.agent? id
  invalid : registry.agents 0 = none
  population : registry.population = table.agents.countP Agent.used
  count : table.count = UInt32.ofNat registry.population - UInt32.ofNat registry.miscounted
  plain : ∀ agent ∈ table.agents, agent.Plain
  closed : table.initialized = false → table = {} ∧ registry.miscounted = 0

namespace AgentTable

variable {table : AgentTable} {registry : AgentRegistry}

theorem used_iff (agent : Agent) : agent.used = true ↔ agent.id ≠ 0 :=
  bne_iff_ne

theorem unused_iff (agent : Agent) : agent.used = false ↔ agent.id = 0 := by
  rw [Bool.eq_false_iff, ne_eq, used_iff, not_not]

/-! ### One agent -/

/-- The place of an id, and the agent there. -/
theorem find_cases (table : AgentTable) (id : UInt64) :
    (table.find id = none ∧ table.agent? id = none) ∨
    ∃ slot agent, table.find id = some slot ∧ table.agent? id = some agent ∧
      table.agents[slot]? = some agent ∧ agent.id = id := by
  rcases findIdx?_cases table.agents (fun agent => agent.id == id) with
    missing | ⟨slot, agent, place, found, present, same⟩
  · exact .inl missing
  · exact .inr ⟨slot, agent, place, found, present, beq_iff_eq.mp same⟩

theorem withAgent_cases (table : AgentTable) (id : UInt64) (act : Agent → Agent × Int32) :
    (table.withAgent id act = (table, -1) ∧
      (table.initialized = false ∨ table.agent? id = none)) ∨
    ∃ slot agent, table.initialized = true ∧ table.find id = some slot ∧
      table.agent? id = some agent ∧ table.agents[slot]? = some agent ∧ agent.id = id ∧
      table.withAgent id act = (table.store slot (act agent).1, (act agent).2) := by
  unfold withAgent
  cases started : table.initialized with
  | false => exact .inl ⟨rfl, .inl rfl⟩
  | true =>
      rcases table.find_cases id with ⟨nowhere, missing⟩ | ⟨slot, agent, place, found, rest⟩
      · rw [nowhere]
        exact .inl ⟨rfl, .inr missing⟩
      · rw [place, found]
        exact .inr ⟨slot, agent, rfl, rfl, rfl, rest.1, rest.2, rfl⟩

namespace Represents

/-- A table that is not open has no agents. -/
theorem missing (represents : table.Represents registry) {id : UInt64} (named : id ≠ 0)
    (nobody : table.initialized = false ∨ table.agent? id = none) :
    registry.agents id = none := by
  rw [represents.agents id named]
  rcases nobody with shut | absent
  · rw [(represents.closed shut).1]
    apply List.find?_eq_none.mpr
    intro agent member
    rw [List.eq_of_mem_replicate member]
    simpa using named.symm
  · exact absent

/-- Only the slot itself holds its id. -/
theorem only (represents : table.Represents registry) {slot : Nat} {agent : Agent}
    (present : table.agents[slot]? = some agent) (named : agent.id ≠ 0) (other : Nat)
    (found : Agent) (there : table.agents[other]? = some found)
    (same : (found.id == agent.id) = true) : other = slot := by
  have equal := beq_iff_eq.mp same
  apply represents.numbered.distinct other slot found agent there present _ _ equal
  · rw [used_iff, equal]
    exact named
  · exact (used_iff agent).mpr named

/-- The agent of an id is written, and keeps it. -/
theorem rewrite (represents : table.Represents registry) {id : UInt64} {slot : Nat}
    {old new : Agent} (named : id ≠ 0) (open_ : table.initialized = true)
    (place : table.find id = some slot) (present : table.agents[slot]? = some old)
    (same : old.id = id) (kept : new.id = id) (plain : new.Plain) :
    (table.store slot new).Represents (registry.put id new) where
  shape := (List.length_set).trans represents.shape
  opened := represents.opened
  next := represents.next
  issued := represents.issued
  numbered := by
    apply represents.numbered.replace present
    intro _
    rw [used_iff, same, kept]
    exact ⟨named, rfl⟩
  agents := by
    intro other nonzero
    change Function.update registry.agents id (some new) other = _
    by_cases here : other = id
    · rw [here, Function.update_self]
      exact (find?_set_found place (by rw [kept]; exact beq_self_eq_true id)).symm
    · rw [Function.update_of_ne here, represents.agents other nonzero]
      refine (find?_set_other present ?_ ?_).symm
      · rw [same]
        exact beq_eq_false_iff_ne.mpr (Ne.symm here)
      · rw [kept]
        exact beq_eq_false_iff_ne.mpr (Ne.symm here)
  invalid := (Function.update_of_ne named.symm _ _).trans represents.invalid
  population := by
    have moved := countP_set_place Agent.used table.agents slot old new present
    rw [(used_iff old).mpr (same ▸ named), (used_iff new).mpr (kept ▸ named)] at moved
    have population := represents.population
    change registry.population = (table.agents.set slot new).countP Agent.used
    omega
  count := represents.count
  plain := by
    intro agent member
    rcases List.mem_or_eq_of_mem_set member with before | rfl
    · exact represents.plain agent before
    · exact plain
  closed := fun shut => absurd (open_.symm.trans shut) (by decide)

/-- A free slot is written, and stays free. -/
theorem scribble (represents : table.Represents registry) {slot : Nat} {old : Agent} (new : Agent)
    (open_ : table.initialized = true) (present : table.agents[slot]? = some old)
    (free : old.id = 0) (kept : new.id = 0) (plain : new.Plain) :
    (table.store slot new).Represents registry where
  shape := (List.length_set).trans represents.shape
  opened := represents.opened
  next := represents.next
  issued := represents.issued
  numbered := by
    apply represents.numbered.replace present
    intro isUsed
    exact absurd kept ((used_iff new).mp isUsed)
  agents := by
    intro other nonzero
    rw [represents.agents other nonzero]
    refine (find?_set_other present ?_ ?_).symm
    · rw [free]
      exact beq_eq_false_iff_ne.mpr nonzero.symm
    · rw [kept]
      exact beq_eq_false_iff_ne.mpr nonzero.symm
  invalid := represents.invalid
  population := by
    have moved := countP_set_place Agent.used table.agents slot old new present
    rw [(unused_iff old).mpr free, (unused_iff new).mpr kept] at moved
    have population := represents.population
    change registry.population = (table.agents.set slot new).countP Agent.used
    omega
  count := represents.count
  plain := by
    intro agent member
    rcases List.mem_or_eq_of_mem_set member with before | rfl
    · exact represents.plain agent before
    · exact plain
  closed := fun shut => absurd (open_.symm.trans shut) (by decide)

/-! ### One call -/

/-- A call on one agent that exists. -/
theorem act (represents : table.Represents registry) {id : UInt64} (named : id ≠ 0)
    {act change : Agent → Agent × Int32} (agree : ∀ agent, agent.Plain → act agent = change agent)
    (keeps : ∀ agent, agent.Plain → (act agent).1.id = agent.id ∧ (act agent).1.Plain) :
    (table.withAgent id act).1.Represents (registry.act id change).1 ∧
      AgentAnswer.code (table.withAgent id act).2 = (registry.act id change).2 := by
  unfold AgentRegistry.act
  rcases withAgent_cases table id act with
    ⟨refused, nobody⟩ | ⟨slot, agent, open_, place, found, present, same, done⟩
  · rw [refused, represents.missing named nobody]
    exact ⟨represents, rfl⟩
  · have plain := represents.plain agent (List.mem_of_getElem? present)
    obtain ⟨kept, after⟩ := keeps agent plain
    rw [done, represents.agents id named, found]
    simp only [← agree agent plain]
    exact ⟨represents.rewrite named open_ place present same (kept.trans same) after, trivial⟩

/-- The same call on the invalid id changes at most a free slot. -/
theorem act_invalid (represents : table.Represents registry) {act : Agent → Agent × Int32}
    (change : Agent → Agent × Int32)
    (keeps : ∀ agent, agent.Plain → (act agent).1.id = agent.id ∧ (act agent).1.Plain) :
    (table.withAgent 0 act).1.Represents (registry.act 0 change).1 := by
  unfold AgentRegistry.act
  rw [represents.invalid]
  rcases withAgent_cases table 0 act with
    ⟨refused, _⟩ | ⟨slot, agent, open_, _, _, present, same, done⟩
  · rw [refused]
    exact represents
  · obtain ⟨kept, after⟩ := keeps agent (represents.plain agent (List.mem_of_getElem? present))
    rw [done]
    exact represents.scribble _ open_ present same (kept.trans same) after

/-- Whether the call names an agent decides about its answer alone. -/
theorem acts (represents : table.Represents registry) (id : UInt64)
    {act change : Agent → Agent × Int32} (agree : ∀ agent, agent.Plain → act agent = change agent)
    (keeps : ∀ agent, agent.Plain → (act agent).1.id = agent.id ∧ (act agent).1.Plain) :
    (table.withAgent id act).1.Represents (registry.act id change).1 ∧
      (id ≠ 0 → AgentAnswer.code (table.withAgent id act).2 = (registry.act id change).2) := by
  by_cases named : id = 0
  · subst named
    exact ⟨represents.act_invalid change keeps, fun nonzero => absurd rfl nonzero⟩
  · obtain ⟨after, answer⟩ := represents.act named agree keeps
    exact ⟨after, fun _ => answer⟩

theorem initAgent_eq (now : UInt64) {agent : Agent} (plain : agent.Plain) :
    initAgent now agent = AgentRegistry.advance .ready now .created agent := by
  unfold initAgent AgentRegistry.advance
  rw [plain.ops]
  by_cases fresh : agent.state = .created
  · rw [if_neg (not_not.mpr fresh), if_pos fresh]
    rfl
  · rw [if_pos fresh, if_neg fresh]

theorem startAgent_eq (now : UInt64) (agent : Agent) :
    startAgent now agent = AgentRegistry.advance .running now .ready agent := by
  unfold startAgent AgentRegistry.advance
  by_cases ready : agent.state = .ready
  · rw [if_neg (not_not.mpr ready), if_pos ready]
  · rw [if_pos ready, if_neg ready]

theorem stopAgent_eq (now : UInt64) {agent : Agent} (plain : agent.Plain) :
    stopAgent now agent = AgentRegistry.advance .completed now .running agent := by
  unfold stopAgent AgentRegistry.advance
  by_cases running : agent.state = .running
  · rw [if_neg (fun other => other.1 running), if_pos running]
  · rw [if_pos ⟨running, plain.busy⟩, if_neg running]

/-- A step of a life keeps an agent plain. -/
theorem advance_plain {next allowed : AgentState} (now : UInt64) {agent : Agent}
    (plain : agent.Plain) (busy : next ≠ .waiting) (sound : next ≠ .error) :
    (AgentRegistry.advance next now allowed agent).1.id = agent.id ∧
      (AgentRegistry.advance next now allowed agent).1.Plain := by
  unfold AgentRegistry.advance
  split
  · exact ⟨rfl, plain.ops, busy, sound⟩
  · exact ⟨rfl, plain⟩

/-- The empty table. -/
theorem initial : ({} : AgentTable).Represents {} where
  shape := List.length_replicate
  opened := rfl
  next := rfl
  issued := fun started => absurd started (by decide)
  numbered := Numbered.unused 0 fun agent member => by
    rw [List.eq_of_mem_replicate member]
    rfl
  agents := fun id nonzero => by
    refine (List.find?_eq_none.mpr ?_).symm
    intro agent member
    rw [List.eq_of_mem_replicate member]
    simpa using nonzero.symm
  invalid := rfl
  population := by
    change 0 = (List.replicate MAX_AGENTS {}).countP Agent.used
    rw [List.countP_replicate]
    rfl
  count := rfl
  plain := fun agent member => by
    rw [List.eq_of_mem_replicate member]
    exact ⟨rfl, by decide, by decide⟩
  closed := fun _ => ⟨rfl, rfl⟩

/-- The table that `agent_runtime_init` leaves. -/
theorem opened_table : ({ nextId := 1, initialized := true } : AgentTable).Represents
    { opened := true, next := 1 } where
  shape := initial.shape
  opened := rfl
  next := rfl
  issued := fun _ => by decide
  numbered := Numbered.unused 1 fun agent member => by
    rw [List.eq_of_mem_replicate member]
    rfl
  agents := initial.agents
  invalid := rfl
  population := initial.population
  count := rfl
  plain := initial.plain
  closed := fun shut => absurd shut (by decide)

/-- Whether there is a free slot. -/
theorem find_free (represents : table.Represents registry) :
    (registry.population = MAX_AGENTS ∧ table.find 0 = none) ∨
    ∃ slot agent, registry.population < MAX_AGENTS ∧ table.find 0 = some slot ∧
      table.agent? 0 = some agent ∧ table.agents[slot]? = some agent ∧ agent.id = 0 := by
  have counted := List.length_eq_countP_add_countP Agent.used (l := table.agents)
  rw [represents.shape, ← represents.population] at counted
  rcases table.find_cases 0 with ⟨nowhere, missing⟩ | ⟨slot, agent, place, found, present, same⟩
  · have none_ : table.agents.countP (fun agent => decide ¬agent.used = true) = 0 := by
      rw [List.countP_eq_zero]
      intro agent member
      have nonzero := List.find?_eq_none.mp missing agent member
      simpa [Agent.used] using nonzero
    exact .inl ⟨by omega, nowhere⟩
  · have some_ : 0 < table.agents.countP (fun agent => decide ¬agent.used = true) := by
      rw [List.countP_pos_iff]
      exact ⟨agent, List.mem_of_getElem? present, by simp [Agent.used, same]⟩
    exact .inr ⟨slot, agent, by omega, place, found, present, same⟩

/-- A free slot is taken. -/
theorem claim (represents : table.Represents registry) (config : AgentConfig) (now : UInt64)
    {slot : Nat} {old : Agent} (open_ : table.initialized = true)
    (room : table.nextId.toNat + 1 < 2 ^ 64) (present : table.agents[slot]? = some old)
    (free : old.id = 0) :
    ({ table with
        agents := table.agents.set slot (newAgent table.nextId config now)
        nextId := table.nextId + 1
        count := table.count + 1 } : AgentTable).Represents
      { registry with
        agents :=
          Function.update registry.agents table.nextId (some (newAgent table.nextId config now))
        population := registry.population + 1
        next := table.nextId + 1 } where
  shape := (List.length_set).trans represents.shape
  opened := represents.opened
  next := rfl
  issued := by
    intro _ zero
    have larger : (table.nextId + 1).toNat = table.nextId.toNat + 1 := by
      rw [UInt64.toNat_add]
      exact Nat.mod_eq_of_lt room
    rw [show table.nextId + 1 = 0 from zero] at larger
    cases larger
  numbered := represents.numbered.claim slot _ rfl room
  agents := by
    intro other nonzero
    change Function.update registry.agents table.nextId _ other = _
    by_cases here : other = table.nextId
    · rw [here, Function.update_self]
      refine (find?_set_new ?_ (List.getElem?_eq_some_iff.mp present).1
        (beq_self_eq_true table.nextId)).symm
      rw [List.find?_eq_none]
      intro agent member same
      obtain ⟨place, there⟩ := List.getElem?_of_mem member
      have equal := beq_iff_eq.mp same
      have below := represents.numbered.below place agent there
        ((used_iff agent).mpr (equal ▸ represents.issued open_))
      rw [equal] at below
      exact absurd below (UInt64.lt_irrefl _)
    · rw [Function.update_of_ne here, represents.agents other nonzero]
      refine (find?_set_other present ?_ ?_).symm
      · rw [free]
        exact beq_eq_false_iff_ne.mpr nonzero.symm
      · exact beq_eq_false_iff_ne.mpr (Ne.symm here)
  invalid := (Function.update_of_ne (represents.issued open_).symm _ _).trans represents.invalid
  population := by
    have taken : (newAgent table.nextId config now).used = true :=
      (used_iff _).mpr (represents.issued open_)
    have moved := countP_set_unused present
      ((unused_iff old).mpr free) taken
    exact (congrArg Nat.succ represents.population).trans moved.symm
  count := by
    change table.count + 1 = UInt32.ofNat (registry.population + 1) - _
    rw [represents.count, UInt32.ofNat_add]
    grind
  plain := by
    intro agent member
    rcases List.mem_or_eq_of_mem_set member with before | rfl
    · exact represents.plain agent before
    · exact ⟨rfl, nofun, nofun⟩
  closed := fun shut => absurd (open_.symm.trans shut) (by decide)

/-- An agent gives its slot up. -/
theorem vacate (represents : table.Represents registry) {id : UInt64} {slot : Nat}
    {old : Agent} (named : id ≠ 0) (open_ : table.initialized = true)
    (present : table.agents[slot]? = some old) (same : old.id = id) :
    ({ table with
        agents := table.agents.set slot { old with id := 0, state := .created }
        count := table.count - 1 } : AgentTable).Represents
      { registry with
        agents := Function.update registry.agents id none
        population := registry.population - 1 } where
  shape := (List.length_set).trans represents.shape
  opened := represents.opened
  next := represents.next
  issued := represents.issued
  numbered := represents.numbered.replace present fun isUsed =>
    absurd rfl ((used_iff _).mp isUsed)
  agents := by
    intro other nonzero
    change Function.update registry.agents id none other = _
    by_cases here : other = id
    · rw [here, Function.update_self]
      refine (find?_set_gone ?_ ?_).symm
      · intro place found there equal
        rw [← same] at equal named
        exact represents.only present named place found there equal
      · exact beq_eq_false_iff_ne.mpr named.symm
    · rw [Function.update_of_ne here, represents.agents other nonzero]
      refine (find?_set_other present ?_ ?_).symm
      · rw [same]
        exact beq_eq_false_iff_ne.mpr (Ne.symm here)
      · exact beq_eq_false_iff_ne.mpr nonzero.symm
  invalid := (Function.update_of_ne named.symm _ _).trans represents.invalid
  population := by
    have moved := countP_set_place Agent.used table.agents slot old
      { old with id := 0, state := .created } present
    rw [(used_iff old).mpr (same ▸ named), (unused_iff _).mpr rfl, Bool.toNat_true,
      Bool.toNat_false, ← represents.population] at moved
    exact Nat.sub_eq_of_eq_add moved.symm
  count := by
    have positive : 0 < registry.population := by
      rw [represents.population, List.countP_pos_iff]
      exact ⟨old, List.mem_of_getElem? present, (used_iff old).mpr (same ▸ named)⟩
    obtain ⟨fewer, one⟩ := Nat.exists_eq_add_of_lt positive
    change table.count - 1 = UInt32.ofNat (registry.population - 1) - _
    rw [represents.count, one, Nat.zero_add, Nat.add_sub_cancel, UInt32.ofNat_add]
    grind
  plain := by
    intro agent member
    rcases List.mem_or_eq_of_mem_set member with before | rfl
    · exact represents.plain agent before
    · exact ⟨(represents.plain old (List.mem_of_getElem? present)).ops, nofun, nofun⟩
  closed := fun shut => absurd (open_.symm.trans shut) (by decide)

theorem create (represents : table.Represents registry) (config : AgentConfig) (now : UInt64)
    (room : table.nextId.toNat + 1 < 2 ^ 64) :
    (table.agentCreate (some config) now).1.Represents (registry.create config now).1 ∧
      AgentAnswer.agent (table.agentCreate (some config) now).2 =
        (registry.create config now).2 := by
  unfold agentCreate AgentRegistry.create
  rw [represents.next]
  by_cases open_ : table.initialized = true
  · have ready : ¬(!table.initialized) = true := by simp [open_]
    have ready' : ¬(!registry.opened) = true := by simp [represents.opened, open_]
    simp only [if_neg ready]
    rcases represents.find_free with ⟨full, nowhere⟩ | ⟨slot, old, few, place, _, present, free⟩
    · rw [nowhere, if_pos (.inr full)]
      exact ⟨represents, rfl⟩
    · rw [place, if_neg (not_or.mpr ⟨ready', Nat.ne_of_lt few⟩)]
      exact ⟨represents.claim config now open_ room present free, rfl⟩
  · have shut : (!table.initialized) = true := by simpa using open_
    have shut' : (!registry.opened) = true := by simpa [represents.opened] using open_
    simp only [if_pos shut, if_pos (Or.inl shut')]
    exact ⟨represents, trivial⟩

/-- `agent_destroy` takes a free slot for the agent of id zero, and counts it. -/
theorem destroy_invalid (represents : table.Represents registry) :
    (table.agentDestroy 0).1.Represents (registry.destroy 0).1 ∧
      AgentAnswer.code (table.agentDestroy 0).2 = (registry.destroy 0).2 := by
  unfold agentDestroy AgentRegistry.destroy
  rw [if_pos rfl]
  by_cases open_ : table.initialized = true
  · have ready : ¬(!table.initialized) = true := by simp [open_]
    rw [if_neg ready]
    rcases represents.find_free with
      ⟨full, nowhere⟩ | ⟨slot, old, few, place, found, present, free⟩
    · rw [nowhere, if_neg (fun both => Nat.ne_of_lt both.2 full)]
      exact ⟨represents, rfl⟩
    · rw [place, found, if_pos ⟨represents.opened.trans open_, few⟩]
      have scribbled := represents.scribble { old with id := 0, state := .created }
        open_ present free rfl
        ⟨(represents.plain old (List.mem_of_getElem? present)).ops, nofun, nofun⟩
      have counted : table.count - 1 =
          UInt32.ofNat registry.population - UInt32.ofNat (registry.miscounted + 1) := by
        rw [represents.count, UInt32.ofNat_add]
        grind
      exact ⟨⟨scribbled.shape, scribbled.opened, scribbled.next, scribbled.issued,
        scribbled.numbered, scribbled.agents, scribbled.invalid, scribbled.population, counted,
        scribbled.plain, fun shut => absurd (open_.symm.trans shut) (by decide)⟩, rfl⟩
  · have shut : (!table.initialized) = true := by simpa using open_
    rw [if_pos shut, if_neg (fun both => open_ (represents.opened.symm.trans both.1))]
    exact ⟨represents, rfl⟩

theorem destroy (represents : table.Represents registry) (id : UInt64) :
    (table.agentDestroy id).1.Represents (registry.destroy id).1 ∧
      AgentAnswer.code (table.agentDestroy id).2 = (registry.destroy id).2 := by
  by_cases named : id = 0
  · rw [named]
    exact represents.destroy_invalid
  · unfold agentDestroy AgentRegistry.destroy
    rw [if_neg named]
    by_cases open_ : table.initialized = true
    · have ready : ¬(!table.initialized) = true := by simp [open_]
      rw [if_neg ready]
      rcases table.find_cases id with
        ⟨nowhere, missing⟩ | ⟨slot, old, place, found, present, same⟩
      · rw [nowhere, represents.missing named (.inr missing)]
        exact ⟨represents, rfl⟩
      · rw [place, represents.agents id named, found]
        exact ⟨represents.vacate named open_ present same, rfl⟩
    · have shut : (!table.initialized) = true := by simpa using open_
      rw [if_pos shut, represents.missing named (.inl (by simpa using open_))]
      exact ⟨represents, rfl⟩

theorem next_lt (represents : table.Represents registry)
    (room : table.nextId.toNat + 1 < 2 ^ 64) : registry.next < registry.next + 1 := by
  rw [represents.next, UInt64.lt_iff_toNat_lt, UInt64.toNat_add]
  change _ < (table.nextId.toNat + 1) % 2 ^ 64
  omega

/-- Both sides make the same step. -/
theorem step (represents : table.Represents registry) (room : table.nextId.toNat + 1 < 2 ^ 64)
    (call : AgentCall) :
    (table.perform call).1.Represents (registry.perform call).1 ∧
      (call.Named → (table.perform call).2 = (registry.perform call).2) := by
  cases call with
  | runtimeInit =>
      change (table.agentRuntimeInit).1.Represents _ ∧ (_ → AgentAnswer.code _ = _)
      unfold agentRuntimeInit AgentRegistry.perform
      rw [represents.opened]
      cases table.initialized with
      | true => exact ⟨represents, fun _ => rfl⟩
      | false => exact ⟨opened_table, fun _ => rfl⟩
  | runtimeDestroy =>
      refine ⟨?_, fun _ => rfl⟩
      change (table.agentRuntimeDestroy).Represents {}
      unfold agentRuntimeDestroy
      cases shut : table.initialized with
      | true => exact initial
      | false =>
          rw [(represents.closed shut).1]
          exact initial
  | create config now =>
      cases config with
      | none => exact ⟨represents, fun _ => rfl⟩
      | some config =>
          obtain ⟨after, answer⟩ := represents.create config now room
          exact ⟨after, fun _ => answer⟩
  | destroy id =>
      obtain ⟨after, answer⟩ := represents.destroy id
      exact ⟨after, fun _ => answer⟩
  | init id now =>
      apply represents.acts id (fun agent plain => initAgent_eq now plain)
      intro agent plain
      rw [initAgent_eq now plain]
      exact advance_plain now plain (by decide) (by decide)
  | start id now =>
      apply represents.acts id (fun agent _ => startAgent_eq now agent)
      intro agent plain
      rw [startAgent_eq now agent]
      exact advance_plain now plain (by decide) (by decide)
  | stop id now =>
      apply represents.acts id (fun agent plain => stopAgent_eq now plain)
      intro agent plain
      rw [stopAgent_eq now plain]
      exact advance_plain now plain (by decide) (by decide)
  | setPriority id priority =>
      exact represents.acts id (fun _ _ => rfl) fun agent plain =>
        ⟨rfl, plain.ops, plain.busy, plain.sound⟩
  | getState id =>
      refine ⟨represents, fun named => congrArg AgentAnswer.state ?_⟩
      unfold agentGetState
      cases open_ : table.initialized with
      | false =>
          rw [represents.missing named (.inl open_)]
          rfl
      | true =>
          rw [represents.agents id named]
          cases table.agent? id <;> rfl
  | wait id timeoutMs elapsed =>
      refine ⟨represents, fun named => congrArg AgentAnswer.round ?_⟩
      unfold agentWait
      cases open_ : table.initialized with
      | false =>
          rw [represents.missing named (.inl open_)]
          rfl
      | true =>
          rw [represents.agents id named]
          cases found : table.agent? id with
          | none => rfl
          | some agent =>
              have sound := (represents.plain agent (List.mem_of_find?_eq_some found)).sound
              simp only [sound, or_false]
              rfl

end Represents

/-! ### Runs -/

theorem withAgent_nextId (table : AgentTable) (id : UInt64) (act : Agent → Agent × Int32) :
    (table.withAgent id act).1.nextId = table.nextId := by
  rcases withAgent_cases table id act with
    ⟨refused, _⟩ | ⟨slot, agent, _, _, _, _, _, done⟩
  · rw [refused]
  · rw [done]
    rfl

/-- A call issues one id at most. -/
theorem perform_nextId (table : AgentTable) (call : AgentCall) :
    (table.perform call).1.nextId.toNat ≤ table.nextId.toNat + 1 := by
  have unchanged : ∀ id act, (table.withAgent id act).1.nextId.toNat ≤ table.nextId.toNat + 1 := by
    intro id act
    rw [withAgent_nextId]
    exact Nat.le_succ _
  cases call with
  | runtimeInit =>
      change table.agentRuntimeInit.1.nextId.toNat ≤ _
      unfold agentRuntimeInit
      split
      · exact Nat.le_succ _
      · exact Nat.succ_le_succ (Nat.zero_le _)
  | runtimeDestroy =>
      change table.agentRuntimeDestroy.nextId.toNat ≤ _
      unfold agentRuntimeDestroy
      split
      · exact Nat.zero_le _
      · exact Nat.le_succ _
  | create config now =>
      change (table.agentCreate config now).1.nextId.toNat ≤ _
      unfold agentCreate
      split
      · exact Nat.le_succ _
      · split
        · exact Nat.le_succ _
        · split
          · exact Nat.le_succ _
          · change (table.nextId + 1).toNat ≤ _
            rw [UInt64.toNat_add]
            exact Nat.mod_le _ _
  | destroy id =>
      change (table.agentDestroy id).1.nextId.toNat ≤ _
      unfold agentDestroy
      split
      · exact Nat.le_succ _
      · split
        · exact Nat.le_succ _
        · exact Nat.le_succ _
  | init id now => exact unchanged id _
  | start id now => exact unchanged id _
  | stop id now => exact unchanged id _
  | setPriority id priority => exact unchanged id _
  | getState id => exact Nat.le_succ _
  | wait id timeoutMs elapsed => exact Nat.le_succ _

theorem run_nextId (calls : List AgentCall) :
    (agentMachine.run calls).nextId.toNat ≤ calls.length := by
  induction calls using List.reverseRecOn with
  | nil => exact Nat.le_refl 0
  | append_singleton earlier call ih =>
      have one := perform_nextId (agentMachine.run earlier) call
      rw [agentMachine.run_snoc, List.length_append]
      change (perform _ call).1.nextId.toNat ≤ earlier.length + 1
      omega

theorem run_represents (calls : List AgentCall) (few : calls.length < 2 ^ 64) :
    (agentMachine.run calls).Represents (registryMachine.run calls) := by
  induction calls using List.reverseRecOn with
  | nil => exact Represents.initial
  | append_singleton earlier call ih =>
      rw [List.length_append] at few
      have issued := run_nextId earlier
      have fewer : earlier.length + 1 < 2 ^ 64 := few
      rw [agentMachine.run_snoc, registryMachine.run_snoc]
      exact ((ih (by omega)).step (by omega) call).1

/-- The table refines the registry: it finds the same agents, gives the same answer to
every call that names an agent, and its count is off by the destructions of id zero
alone. -/
theorem agent_table_refines_registry (calls : List AgentCall)
    (few : calls.length + 1 < 2 ^ 64) :
    (∀ id, id ≠ 0 → (agentMachine.run calls).agent? id = (registryMachine.run calls).agents id) ∧
      (∀ call : AgentCall, call.Named →
        ((agentMachine.run calls).perform call).2 =
          ((registryMachine.run calls).perform call).2) ∧
      (agentMachine.run calls).count =
        UInt32.ofNat (registryMachine.run calls).population -
          UInt32.ofNat (registryMachine.run calls).miscounted := by
  have represents := run_represents calls (by omega)
  have issued := run_nextId calls
  refine ⟨?_, ?_, represents.count⟩
  · intro id named
    exact (represents.agents id named).symm
  · intro call named
    exact (represents.step (by omega) call).2 named

/-! ### The life of an agent -/

/-- The calls that move an agent on. -/
inductive Stage
  | init
  | start
  | stop
  deriving DecidableEq

def stageOf : AgentCall → Option (Stage × UInt64)
  | .init id _ => some (.init, id)
  | .start id _ => some (.start, id)
  | .stop id _ => some (.stop, id)
  | _ => none

/-- The call moves the agent on, and returns zero. -/
def accomplishes (stage : Stage) (id : UInt64) (table : AgentTable) (call : AgentCall) : Bool :=
  decide (stageOf call = some (stage, id)) && decide ((table.perform call).2 = .code 0)

/-- How often that has happened in the run. -/
def accomplished (calls : List AgentCall) (stage : Stage) (id : UInt64) : Nat :=
  agentMachine.count (accomplishes stage id) agentMachine.initial calls

/-- How far an agent has come. -/
def AgentState.reached : AgentState → Stage → Bool
  | .created, _ => false
  | .ready, .init => true
  | .ready, _ => false
  | .running, .stop => false
  | .running, _ => true
  | .waiting, .stop => false
  | .waiting, _ => true
  | .completed, _ => true
  | .error, _ => true

/-- What an agent has gone through at most once, and in this order. -/
structure Lived (calls : List AgentCall) (registry : AgentRegistry) (id : UInt64) : Prop where
  stopped : accomplished calls .stop id ≤ accomplished calls .start id
  started : accomplished calls .start id ≤ accomplished calls .init id
  once : accomplished calls .init id ≤ 1
  unborn : registry.next ≤ id → accomplished calls .init id = 0
  present : ∀ agent, registry.agents id = some agent → id < registry.next ∧
    ∀ stage, accomplished calls stage id = (AgentState.reached agent.state stage).toNat

section Life

variable {earlier : List AgentCall} {id : UInt64} {call : AgentCall}

theorem accomplished_snoc (earlier : List AgentCall) (call : AgentCall) (stage : Stage)
    (id : UInt64) :
    accomplished (earlier ++ [call]) stage id =
      accomplished earlier stage id +
        (accomplishes stage id (agentMachine.run earlier) call).toNat :=
  agentMachine.count_append (accomplishes stage id) agentMachine.initial earlier [call]

/-- A call that does not move the agent on, and keeps its state if it keeps the agent. -/
theorem Lived.still {before after : AgentRegistry} (lived : Lived earlier before id)
    (idle : ∀ stage, accomplishes stage id (agentMachine.run earlier) call = false)
    (grows : before.next ≤ after.next)
    (kept : ∀ agent, after.agents id = some agent →
      ∃ old, before.agents id = some old ∧ agent.state = old.state) :
    Lived (earlier ++ [call]) after id := by
  have same : ∀ stage, accomplished (earlier ++ [call]) stage id =
      accomplished earlier stage id := by
    intro stage
    rw [accomplished_snoc, idle stage]
    rfl
  refine ⟨?_, ?_, ?_, ?_, ?_⟩
  · rw [same, same]
    exact lived.stopped
  · rw [same, same]
    exact lived.started
  · rw [same]
    exact lived.once
  · intro above
    rw [same]
    exact lived.unborn (UInt64.le_trans grows above)
  · intro agent found
    obtain ⟨old, present, state⟩ := kept agent found
    obtain ⟨below, counts⟩ := lived.present old present
    refine ⟨UInt64.lt_of_lt_of_le below grows, ?_⟩
    intro stage
    rw [same, state]
    exact counts stage

/-- What the counts say once the agent is at a certain state. -/
theorem Lived.of_state {after : AgentRegistry} (agent : Agent)
    (found : after.agents id = some agent) (below : id < after.next)
    (order : ∀ stage, agent.state.reached .stop = true → agent.state.reached stage = true)
    (first : agent.state.reached .start = true → agent.state.reached .init = true)
    (counts : ∀ stage, accomplished earlier stage id = (agent.state.reached stage).toNat) :
    Lived earlier after id := by
  refine ⟨?_, ?_, ?_, ?_, ?_⟩
  · rw [counts, counts]
    exact Bool.toNat_le_toNat fun stopped => order .start stopped
  · rw [counts, counts]
    exact Bool.toNat_le_toNat first
  · rw [counts]
    exact Bool.toNat_le _
  · intro above
    exact absurd (UInt64.lt_of_lt_of_le below above) (UInt64.lt_irrefl _)
  · intro other present
    cases found.symm.trans present
    exact ⟨below, counts⟩

/-- What another agent does is no event of this one. -/
theorem idle_of_other (table : AgentTable) {stage : Stage} {target : UInt64}
    (named : stageOf call = some (stage, target)) (other : target ≠ id) (any : Stage) :
    accomplishes any id table call = false := by
  unfold accomplishes
  rw [named, Bool.and_eq_false_iff]
  left
  rw [decide_eq_false_iff_not]
  intro same
  cases same
  exact other rfl

/-- What fails is no event. -/
theorem idle_of_failed (table : AgentTable) (failed : (table.perform call).2 = .code (-1))
    (stage : Stage) : accomplishes stage id table call = false := by
  unfold accomplishes
  rw [failed, Bool.and_eq_false_iff]
  exact .inr (by decide)

theorem act_agents_other (registry : AgentRegistry) {target : UInt64} (other : target ≠ id)
    (change : Agent → Agent × Int32) :
    (registry.act target change).1.agents id = registry.agents id := by
  unfold AgentRegistry.act
  split
  · rfl
  · exact Function.update_of_ne other.symm _ _

theorem act_missing {target : UInt64} {change : Agent → Agent × Int32}
    (missing : registry.agents target = none) :
    registry.act target change = (registry, .code (-1)) := by
  unfold AgentRegistry.act
  rw [missing]

theorem act_found {target : UInt64} {change : Agent → Agent × Int32} {agent : Agent}
    (found : registry.agents target = some agent) :
    registry.act target change =
      (registry.put target (change agent).1, .code (change agent).2) := by
  unfold AgentRegistry.act
  rw [found]

theorem put_agents (registry : AgentRegistry) (id : UInt64) (agent : Agent) :
    (registry.put id agent).agents id = some agent :=
  Function.update_self ..

theorem act_next (registry : AgentRegistry) (target : UInt64)
    (change : Agent → Agent × Int32) :
    (registry.act target change).1.next = registry.next := by
  unfold AgentRegistry.act
  split
  · rfl
  · rfl

/-- One step of a life, or the refusal of it. -/
theorem Lived.moved (lived : Lived earlier registry id) (stage : Stage)
    {allowed next : AgentState} (now : UInt64) {target : UInt64}
    (named : stageOf call = some (stage, target))
    (answer : target = id → ((agentMachine.run earlier).perform call).2 =
      (registry.act target (AgentRegistry.advance next now allowed)).2)
    (more : ∀ any, (next.reached any).toNat =
      (allowed.reached any).toNat + (decide (any = stage)).toNat)
    (order : ∀ any, next.reached .stop = true → next.reached any = true)
    (first : next.reached .start = true → next.reached .init = true) :
    Lived (earlier ++ [call]) (registry.act target (AgentRegistry.advance next now allowed)).1
      id := by
  by_cases here : target = id
  · subst here
    have answered := answer rfl
    cases found : registry.agents target with
    | none =>
        rw [act_missing found] at answered ⊢
        exact lived.still (idle_of_failed _ answered) (UInt64.le_refl _)
          fun agent present => ⟨agent, present, rfl⟩
    | some agent =>
        rw [act_found found] at answered ⊢
        unfold AgentRegistry.advance at answered ⊢
        by_cases allowed' : agent.state = allowed
        · rw [if_pos allowed'] at answered ⊢
          obtain ⟨below, counts⟩ := lived.present agent found
          refine Lived.of_state _ (put_agents registry target _) below order first ?_
          intro any
          rw [accomplished_snoc, counts any, allowed']
          change _ = (next.reached any).toNat
          rw [more any]
          congr 2
          unfold accomplishes
          rw [named, answered]
          by_cases same : any = stage
          · simp [same]
          · simp [same, Ne.symm same]
        · rw [if_neg allowed'] at answered ⊢
          refine lived.still (idle_of_failed _ answered) (UInt64.le_refl _) ?_
          intro other present
          cases (put_agents registry target agent).symm.trans present
          exact ⟨agent, found, rfl⟩
  · apply lived.still (idle_of_other _ named here) (by rw [act_next]; exact UInt64.le_refl _)
    intro agent present
    rw [act_agents_other registry here] at present
    exact ⟨agent, present, rfl⟩

theorem idle_of_none (table : AgentTable) (unstaged : stageOf call = none) (stage : Stage) :
    accomplishes stage id table call = false := by
  unfold accomplishes
  rw [unstaged]
  rfl

/-- A new agent has gone through nothing. -/
theorem Lived.born (lived : Lived earlier registry id) {agent : Agent} {after : AgentRegistry}
    (unstaged : stageOf call = none) (unborn : registry.next ≤ id) (below : id < after.next)
    (found : after.agents id = some agent) (fresh : agent.state = .created) :
    Lived (earlier ++ [call]) after id := by
  have none_ := lived.unborn unborn
  have started := lived.started
  have stopped := lived.stopped
  apply Lived.of_state agent found below
  · rw [fresh]
    nofun
  · rw [fresh]
    nofun
  · intro stage
    rw [accomplished_snoc, idle_of_none _ unstaged, fresh]
    change accomplished earlier stage id = 0
    cases stage <;> omega

/-- What one call makes of a life; the session goes on. -/
theorem Lived.step (lived : Lived earlier registry id) (named : id ≠ 0)
    (represents : (agentMachine.run earlier).Represents registry)
    (room : (agentMachine.run earlier).nextId.toNat + 1 < 2 ^ 64)
    (session : call ≠ .runtimeDestroy) :
    Lived (earlier ++ [call]) (registry.perform call).1 id := by
  have answer : call.Named → ((agentMachine.run earlier).perform call).2 =
      (registry.perform call).2 := (represents.step room call).2
  have kept : stageOf call = none → Lived (earlier ++ [call]) registry id := fun unstaged =>
    lived.still (idle_of_none _ unstaged) (UInt64.le_refl _) fun agent found =>
      ⟨agent, found, rfl⟩
  cases call with
  | runtimeInit =>
      change Lived _ (if registry.opened = true then _ else _ : AgentRegistry × AgentAnswer).1 id
      by_cases opened : registry.opened = true
      · rw [if_pos opened]
        exact kept rfl
      · rw [if_neg opened]
        have shut : (agentMachine.run earlier).initialized = false := by
          rw [← represents.opened]
          simpa using opened
        apply lived.still (idle_of_none _ rfl)
        · rw [represents.next, (represents.closed shut).1]
          exact UInt64.zero_le
        · exact fun agent found => absurd found nofun
  | runtimeDestroy => exact absurd rfl session
  | create config now =>
      cases config with
      | none => exact kept rfl
      | some config =>
          change Lived _ (registry.create config now).1 id
          unfold AgentRegistry.create
          split
          · exact kept rfl
          · have larger := represents.next_lt room
            by_cases here : id = registry.next
            · subst here
              exact lived.born rfl (UInt64.le_refl _) larger (Function.update_self ..) rfl
            · apply lived.still (idle_of_none _ rfl) (UInt64.le_of_lt larger)
              intro agent found
              exact ⟨agent, (Function.update_of_ne here _ _).symm.trans found, rfl⟩
  | destroy target =>
      change Lived _ (registry.destroy target).1 id
      unfold AgentRegistry.destroy
      split
      · split
        · have same := kept rfl
          exact ⟨same.stopped, same.started, same.once, same.unborn, same.present⟩
        · exact kept rfl
      · split
        · exact kept rfl
        · refine lived.still (idle_of_none _ rfl) (UInt64.le_refl registry.next) ?_
          intro agent found
          by_cases here : id = target
          · subst here
            cases (Function.update_self ..).symm.trans found
          · exact ⟨agent, (Function.update_of_ne here _ _).symm.trans found, rfl⟩
  | init target now =>
      exact lived.moved .init now rfl (fun same => answer (same ▸ named))
        (fun any => by cases any <;> rfl) nofun nofun
  | start target now =>
      exact lived.moved .start now rfl (fun same => answer (same ▸ named))
        (fun any => by cases any <;> rfl) nofun (fun _ => rfl)
  | stop target now =>
      exact lived.moved .stop now rfl (fun same => answer (same ▸ named))
        (fun any => by cases any <;> rfl) (fun any _ => by cases any <;> rfl) (fun _ => rfl)
  | setPriority target priority =>
      change Lived _ (registry.act target _).1 id
      apply lived.still (idle_of_none _ rfl) (by rw [act_next]; exact UInt64.le_refl _)
      intro agent found
      by_cases here : target = id
      · subst here
        cases present : registry.agents target with
        | none =>
            rw [act_missing present, present] at found
            cases found
        | some old =>
            rw [act_found present, put_agents] at found
            cases found
            exact ⟨old, rfl, rfl⟩
      · rw [act_agents_other registry here] at found
        exact ⟨agent, found, rfl⟩
  | getState target => exact kept rfl
  | wait target timeoutMs elapsed => exact kept rfl

/-- An agent that is gone does not come back. -/
theorem gone_step (represents : table.Represents registry)
    (room : table.nextId.toNat + 1 < 2 ^ 64) (session : call ≠ .runtimeDestroy)
    (issued : id < registry.next) (gone : registry.agents id = none) :
    id < (registry.perform call).1.next ∧ (registry.perform call).1.agents id = none := by
  have acted : ∀ target change, id < (registry.act target change).1.next ∧
      (registry.act target change).1.agents id = none := by
    intro target change
    refine ⟨by rw [act_next]; exact issued, ?_⟩
    by_cases here : target = id
    · rw [here, act_missing gone]
      exact gone
    · rw [act_agents_other registry here]
      exact gone
  cases call with
  | runtimeInit =>
      change id < (if registry.opened = true then _ else _ : AgentRegistry × AgentAnswer).1.next ∧
        (if registry.opened = true then _ else _ : AgentRegistry × AgentAnswer).1.agents id = none
      by_cases opened : registry.opened = true
      · rw [if_pos opened]
        exact ⟨issued, gone⟩
      · have shut : table.initialized = false := by
          rw [← represents.opened]
          simpa using opened
        rw [represents.next, (represents.closed shut).1] at issued
        exact absurd issued (UInt64.not_lt.mpr UInt64.zero_le)
  | runtimeDestroy => exact absurd rfl session
  | create config now =>
      cases config with
      | none => exact ⟨issued, gone⟩
      | some config =>
          change id < (registry.create config now).1.next ∧ _
          unfold AgentRegistry.perform AgentRegistry.create
          split
          · exact ⟨issued, gone⟩
          · refine ⟨UInt64.lt_trans issued (represents.next_lt room), ?_⟩
            have apart : id ≠ registry.next := fun same =>
              UInt64.lt_irrefl _ (same ▸ issued)
            exact (Function.update_of_ne apart _ _).trans gone
  | destroy target =>
      change id < (registry.destroy target).1.next ∧ (registry.destroy target).1.agents id = none
      unfold AgentRegistry.destroy
      split
      · split
        · exact ⟨issued, gone⟩
        · exact ⟨issued, gone⟩
      · split
        · exact ⟨issued, gone⟩
        · refine ⟨issued, ?_⟩
          by_cases here : id = target
          · rw [here]
            exact Function.update_self ..
          · exact (Function.update_of_ne here _ _).trans gone
  | init target now => exact acted target _
  | start target now => exact acted target _
  | stop target now => exact acted target _
  | setPriority target priority => exact acted target _
  | getState target => exact ⟨issued, gone⟩
  | wait target timeoutMs elapsed => exact ⟨issued, gone⟩

theorem lived_run (calls : List AgentCall) (few : calls.length < 2 ^ 64)
    (session : AgentCall.runtimeDestroy ∉ calls) (named : id ≠ 0) :
    Lived calls (registryMachine.run calls) id := by
  induction calls using List.reverseRecOn with
  | nil => exact ⟨Nat.le_refl 0, Nat.le_refl 0, Nat.zero_le 1, fun _ => rfl, nofun⟩
  | append_singleton earlier call ih =>
      rw [List.length_append] at few
      have fewer : earlier.length + 1 < 2 ^ 64 := few
      have issued := run_nextId earlier
      rw [registryMachine.run_snoc]
      apply (ih (by omega) _).step named (run_represents earlier (by omega)) (by omega)
      · intro here
        exact session (List.mem_append_right _ (List.mem_singleton.mpr here.symm))
      · exact fun member => session (List.mem_append_left _ member)

theorem gone_run (earlier later : List AgentCall) (few : (earlier ++ later).length < 2 ^ 64)
    (session : AgentCall.runtimeDestroy ∉ later)
    (issued : id < (registryMachine.run earlier).next)
    (gone : (registryMachine.run earlier).agents id = none) :
    id < (registryMachine.run (earlier ++ later)).next ∧
      (registryMachine.run (earlier ++ later)).agents id = none := by
  induction later using List.reverseRecOn with
  | nil =>
      rw [List.append_nil]
      exact ⟨issued, gone⟩
  | append_singleton later call ih =>
      rw [← List.append_assoc, List.length_append] at few
      have fewer : (earlier ++ later).length + 1 < 2 ^ 64 := few
      have bounded := run_nextId (earlier ++ later)
      obtain ⟨issued', gone'⟩ := ih (by omega) fun member =>
        session (List.mem_append_left _ member)
      rw [← List.append_assoc, registryMachine.run_snoc]
      apply gone_step (run_represents (earlier ++ later) (by omega)) (by omega) _ issued' gone'
      intro here
      exact session (List.mem_append_right _ (List.mem_singleton.mpr here.symm))

end Life

/-- What the calls of one session make of an id. -/
structure LivesOnce (calls : List AgentCall) (id : UInt64) : Prop where
  order : accomplished calls .stop id ≤ accomplished calls .start id ∧
    accomplished calls .start id ≤ accomplished calls .init id ∧ accomplished calls .init id ≤ 1
  /-- The state of an agent that exists says what it has gone through. -/
  state : ∀ agent, (agentMachine.run calls).agent? id = some agent →
    agent.state ≠ .waiting ∧ agent.state ≠ .error ∧
      ∀ stage, accomplished calls stage id = (agent.state.reached stage).toNat
  /-- An id is not issued again. -/
  gone : ∀ earlier later, calls = earlier ++ later → id < (agentMachine.run earlier).nextId →
    (agentMachine.run earlier).agent? id = none → (agentMachine.run calls).agent? id = none

/-- In every session an agent is initialized, started and stopped at most once, in that
order, it never waits and never fails, and its id is not used again when it is gone. -/
theorem agent_lives_once (calls : List AgentCall) (few : calls.length < 2 ^ 64)
    (session : AgentCall.runtimeDestroy ∉ calls) (id : UInt64) (named : id ≠ 0) :
    LivesOnce calls id := by
  have represents := run_represents calls few
  have lived := lived_run calls few session named
  refine ⟨⟨lived.stopped, lived.started, lived.once⟩, ?_, ?_⟩
  · intro agent found
    have plain := represents.plain agent (List.mem_of_find?_eq_some found)
    rw [← represents.agents id named] at found
    exact ⟨plain.busy, plain.sound, (lived.present agent found).2⟩
  · intro earlier later same issued gone
    subst same
    have fewer : earlier.length < 2 ^ 64 := by
      rw [List.length_append] at few
      omega
    have before := run_represents earlier fewer
    rw [← before.agents id named] at gone
    rw [← before.next] at issued
    rw [← represents.agents id named]
    exact (gone_run earlier later few (fun member => session (List.mem_append_right _ member))
      issued gone).2

/-- Two agents share a slot, one after the other; a call with the invalid id is between
them. -/
def twoAgents : List AgentCall :=
  [ .runtimeInit, .create (some { priority := 3 }) 10, .init 1 11, .start 1 12, .stop 1 13,
    .stop 1 14, .destroy 1, .destroy 0, .create (some {}) 15, .start 1 16, .init 2 17 ]

theorem twoAgents_refines :
    (∀ id, id ≠ 0 →
      (agentMachine.run twoAgents).agent? id = (registryMachine.run twoAgents).agents id) ∧
      (∀ call : AgentCall, call.Named →
        ((agentMachine.run twoAgents).perform call).2 =
          ((registryMachine.run twoAgents).perform call).2) ∧
      (agentMachine.run twoAgents).count =
        UInt32.ofNat (registryMachine.run twoAgents).population -
          UInt32.ofNat (registryMachine.run twoAgents).miscounted :=
  agent_table_refines_registry twoAgents (by decide)

/-- One agent exists, and none is counted. -/
example : (registryMachine.run twoAgents).population = 1 ∧ (agentMachine.run twoAgents).count = 0 :=
  by decide +kernel

theorem twoAgents_once : LivesOnce twoAgents 1 :=
  agent_lives_once twoAgents (by decide) (by simp [twoAgents]) 1 (by decide)

end AgentTable

end AgentNucleus.Top
