import AgentDesk.Agent.Roster
import AgentDesk.Configuration
import AgentDesk.Proofs.Tables
import AgentDesk.Proofs.ToolBoxes
import Mathlib.Data.List.Induction
import Mathlib.Data.List.Nodup
/-!
# Which tools the agents get

The roster of a configuration without a defect leads to every enabled agent and to no other. An
agent has the common tools that its definition allows, and one tool for each enabled peer to which
it may delegate. That tool leads to the agent that was built for the peer in the first pass: it has
the common tools that the peer is allowed, and none that delegates.

Both passes only add agents and change where the identifiers of their definitions lead, so the
agents of the first pass stay where the tools reach them.

## Main definitions

* `AgentDefinition.Allows`, `Configuration.Enables` — what a configuration grants.
* `Roster.Holds` — an identifier leads to an agent.
* `Roster.Extends` — what a pass leaves as it was.
* `Roster.Plain`, `Roster.Equipped` — the tools of an agent of the first pass, and those of an agent
  in the end.
-/

namespace AgentDesk

variable {d : AgentDefinition} {base : ToolBox ToolBody} {name id : String} {post : PostId}
  {peers : List (String × PostId)}

/-- A definition allows a common tool of this name. -/
def AgentDefinition.Allows (d : AgentDefinition) (name : String) : Prop :=
  ∀ allowed, d.allowedTools = some allowed → name ∈ allowed

/-- An agent of this identifier is defined and enabled. -/
def Configuration.Enables (c : Configuration) (id : String) : Prop :=
  ∃ d ∈ c.definitions, d.id = id ∧ d.disabled = false

/-! ## The tools of one agent -/

theorem Delegation.toolName_inj {a b : String} : toolName a = toolName b ↔ a = b := by
  simp [toolName, toString]

namespace Agent

theorem mem_names_toolsFor_nil :
    name ∈ (toolsFor d base []).names ↔ name ∈ base.names ∧ d.Allows name := by
  rw [toolsFor, List.foldl_nil, AgentDefinition.Allows]
  cases d.allowedTools with
  | none => simp
  | some allowed => simp [ToolBox.mem_names_only]

theorem get?_toolsFor_nil (h : d.Allows name) :
    (toolsFor d base []).get? name = base.get? name := by
  rw [toolsFor, List.foldl_nil]
  cases hallowed : d.allowedTools with
  | none => rfl
  | some allowed => exact ToolBox.get?_only_of_mem (h allowed hallowed)

theorem toolsFor_concat (d : AgentDefinition) (base : ToolBox ToolBody)
    (peers : List (String × PostId)) (peer : String × PostId) : toolsFor d base (peers ++ [peer]) =
      (toolsFor d base peers).register (Delegation.info peer.1) (.delegate peer.2 peer.1) := by
  rw [toolsFor, List.foldl_append]
  rfl

theorem ordered_toolsFor (h : base.Ordered) (d : AgentDefinition) (peers : List (String × PostId)) :
    (toolsFor d base peers).Ordered := by
  induction peers using List.reverseRecOn with
  | nil =>
    rw [toolsFor, List.foldl_nil]
    cases d.allowedTools with
    | none => exact h
    | some allowed => exact h.only allowed
  | append_singleton peers peer ih =>
    rw [toolsFor_concat]
    exact ih.register _ _

theorem mem_names_toolsFor : name ∈ (toolsFor d base peers).names ↔
    (name ∈ base.names ∧ d.Allows name) ∨ ∃ peer ∈ peers, name = Delegation.toolName peer.1 := by
  induction peers using List.reverseRecOn with
  | nil => simp [mem_names_toolsFor_nil]
  | append_singleton peers peer ih =>
    have hinfo : (Delegation.info peer.1).name = Delegation.toolName peer.1 := rfl
    rw [toolsFor_concat, ToolBox.mem_names_register, ih, hinfo]
    simp only [List.mem_append, List.mem_singleton, or_and_right, exists_or, exists_eq_left]
    exact or_comm.trans or_assoc

theorem get?_toolsFor_of_ne (h : ∀ peer ∈ peers, name ≠ Delegation.toolName peer.1) :
    (toolsFor d base peers).get? name = (toolsFor d base []).get? name := by
  induction peers using List.reverseRecOn with
  | nil => rfl
  | append_singleton peers peer ih =>
    have hne : name ≠ (Delegation.info peer.1).name := h peer (by simp)
    rw [toolsFor_concat, ToolBox.get?_register_of_ne hne]
    exact ih fun other hother => h other (List.mem_append_left _ hother)

/-- The tool of a peer leads where the peer is, also if the peer is named several times. -/
theorem get?_toolsFor_peer (h : (id, post) ∈ peers)
    (hsame : ∀ peer ∈ peers, peer.1 = id → peer.2 = post) :
    (toolsFor d base peers).get? (Delegation.toolName id) = some (.delegate post id) := by
  induction peers using List.reverseRecOn with
  | nil => cases h
  | append_singleton peers peer ih =>
    rw [toolsFor_concat]
    by_cases hlast : peer.1 = id
    · have hpost := hsame peer (by simp) hlast
      rw [← hlast, ← hpost]
      exact ToolBox.get?_register_self _ (Delegation.info peer.1) _
    · have hne : Delegation.toolName id ≠ (Delegation.info peer.1).name := fun heq =>
        hlast (Delegation.toolName_inj.mp heq).symm
      rw [ToolBox.get?_register_of_ne hne]
      refine ih ?_ fun other hother => hsame other (List.mem_append_left _ hother)
      rcases List.mem_append.mp h with h | h
      · exact h
      · exact absurd (congrArg Prod.fst (List.mem_singleton.mp h)).symm hlast

end Agent

namespace Roster

variable {r r' r'' first : Roster} {agent : Agent} {line : Line} {ids ids' : List String}
  {resolve : AgentDefinition → Except ProviderFailure Line}

/-! ## Where identifiers lead -/

/-- An identifier leads to this agent. -/
def Holds (r : Roster) (id : String) (agent : Agent) : Prop :=
  ∃ post, r.find? id = some post ∧ r.agents[post]? = some agent

/-- A roster has grown: earlier agents are where they were, and only these identifiers may lead
elsewhere. -/
structure Extends (ids : List String) (r r' : Roster) : Prop where
  agents : r.agents <+: r'.agents
  find? : ∀ id ∉ ids, r'.find? id = r.find? id
  nodup : (Table.keys r.directory).Nodup → (Table.keys r'.directory).Nodup

theorem Extends.refl (ids : List String) (r : Roster) : Extends ids r r :=
  ⟨List.prefix_rfl, fun _ _ => rfl, id⟩

theorem Extends.trans (h : Extends ids r r') (h' : Extends ids' r' r'') :
    Extends (ids ++ ids') r r'' where
  agents := h.agents.trans h'.agents
  find? id hid := by
    rw [List.mem_append, not_or] at hid
    rw [h'.find? id hid.2, h.find? id hid.1]
  nodup := h'.nodup ∘ h.nodup

theorem Extends.getElem? (h : Extends ids r r') (hpost : r.agents[post]? = some agent) :
    r'.agents[post]? = some agent := by
  obtain ⟨added, hadded⟩ := h.agents
  obtain ⟨hlt, -⟩ := List.getElem?_eq_some_iff.mp hpost
  rw [← hadded, List.getElem?_append_left hlt, hpost]

theorem Extends.holds (h : Extends ids r r') (hid : id ∉ ids) (hholds : r.Holds id agent) :
    r'.Holds id agent := by
  obtain ⟨post, hfind, hpost⟩ := hholds
  exact ⟨post, by rw [h.find? id hid, hfind], h.getElem? hpost⟩

theorem extends_add (r : Roster) (agent : Agent) : Extends [agent.id] r (r.add agent) where
  agents := List.prefix_append _ _
  find? _ hid := Table.get?_put_of_ne (fun heq => hid (List.mem_singleton.mpr heq)) _ _
  nodup := Table.nodup_keys_put _ _

theorem holds_add (r : Roster) (agent : Agent) : (r.add agent).Holds agent.id agent :=
  ⟨r.agents.length, Table.get?_put_self _ _ _, by simp [add]⟩

theorem mem_ids : id ∈ r.ids ↔ ∃ post, r.find? id = some post := by
  have hkeys := Table.get?_eq_none_iff (k := id) (t := r.directory)
  rw [ids, List.mem_mergeSort, find?, ← Option.isSome_iff_exists, ← Option.ne_none_iff_isSome,
    ne_eq, hkeys, not_not]

theorem pairwise_ids (h : (Table.keys r.directory).Nodup) : r.ids.Pairwise (· < ·) := by
  have hsorted : r.ids.Pairwise (· ≤ ·) := by
    have hle : r.ids.Pairwise fun a b => decide (a ≤ b) = true := by
      apply List.pairwise_mergeSort
      · intro a b c hab hbc
        rw [decide_eq_true_eq] at *
        exact hab.trans hbc
      · intro a b
        simpa using le_total a b
    exact hle.imp fun hab => decide_eq_true_eq.mp hab
  have hdistinct : r.ids.Nodup := (List.mergeSort_perm _ _).nodup_iff.mpr h
  exact hsorted.imp₂ (fun _ _ hle hne => lt_of_le_of_ne hle hne) hdistinct

/-- A roster that began empty leads to the definitions from which agents were built, and to no other
identifier. -/
theorem exists_find?_iff {n : Nat} {ds : List AgentDefinition}
    {peersFor : AgentDefinition → List (String × PostId)} (h : Extends ids (empty n) r)
    (hids : ∀ id ∈ ids, id ∈ ds.map (·.id))
    (hholds : ∀ d ∈ ds, ∃ line, r.Holds d.id (Agent.build d line base (peersFor d))) :
    (∃ post, r.find? id = some post) ↔ id ∈ ds.map (·.id) := by
  constructor
  · rintro ⟨post, hfind⟩
    by_contra hid
    rw [h.find? id (mt (hids id) hid)] at hfind
    cases hfind
  · intro hid
    obtain ⟨d, hd, rfl⟩ := List.mem_map.mp hid
    obtain ⟨line, post, hfind, -⟩ := hholds d hd
    exact ⟨post, hfind⟩

/-! ## The first pass -/

/-- In the first pass every agent is built without tools that delegate. -/
theorem firstPass_spec {ds : List AgentDefinition} (base : ToolBox ToolBody)
    (hnodup : (ds.map (·.id)).Nodup) (hresolve : ∀ d ∈ ds, ∃ line, resolve d = .ok line)
    (r : Roster) :
    ∃ first, firstPass resolve base ds r = .ok first ∧ Extends (ds.map (·.id)) r first ∧
      ∀ d ∈ ds, ∃ line, first.Holds d.id (Agent.build d line base []) := by
  induction ds generalizing r with
  | nil => exact ⟨r, rfl, .refl _ r, nofun⟩
  | cons d ds ih =>
    obtain ⟨hid, hnodup⟩ := List.nodup_cons.mp hnodup
    obtain ⟨line, hline⟩ := hresolve d List.mem_cons_self
    have hadd := extends_add r (Agent.build d line base [])
    obtain ⟨first, hfirst, hextends, hholds⟩ :=
      ih hnodup (fun d' hd' => hresolve d' (List.mem_cons_of_mem _ hd'))
        (r.add (Agent.build d line base []))
    refine ⟨first, by rw [firstPass, hline, ← hfirst], hadd.trans hextends, ?_⟩
    intro d' hd'
    rcases List.mem_cons.mp hd' with rfl | hd'
    · exact ⟨line, hextends.holds hid (holds_add r _)⟩
    · exact hholds d' hd'

/-! ## The second pass -/

theorem mem_peersOf : (id, post) ∈ peersOf first d ↔
    id ∈ d.allowedAgents ∧ first.find? id = some post := by
  simp only [peersOf, List.mem_filterMap, Option.map_eq_some_iff, Prod.mk.injEq]
  constructor
  · rintro ⟨peer, hpeer, there, hthere, rfl, rfl⟩
    exact ⟨hpeer, hthere⟩
  · rintro ⟨hpeer, hthere⟩
    exact ⟨id, hpeer, post, hthere, rfl, rfl⟩

/-- An agent is built once more with its peers, and without peers it stays the same. -/
theorem rebuild_spec (hfirst : first.Holds d.id (Agent.build d line base []))
    (hr : r.Holds d.id (Agent.build d line base [])) :
    Extends [d.id] r (rebuild first base r d) ∧
      (rebuild first base r d).Holds d.id (Agent.build d line base (peersOf first d)) := by
  obtain ⟨post, hfind, hpost⟩ := hfirst
  have hearlier :
      (first.find? d.id).bind (first.agents[·]?) = some (Agent.build d line base []) := by
    rw [hfind, Option.bind_some, hpost]
  rw [rebuild, hearlier]
  cases hpeers : peersOf first d with
  | nil => exact ⟨.refl _ r, hr⟩
  | cons peer peers =>
    exact ⟨extends_add r (Agent.build d line base (peer :: peers)), holds_add r _⟩

theorem foldl_rebuild_spec {ds : List AgentDefinition} (hnodup : (ds.map (·.id)).Nodup)
    (hfirst : ∀ d ∈ ds, ∃ line, first.Holds d.id (Agent.build d line base []) ∧
      r.Holds d.id (Agent.build d line base [])) :
    Extends (ds.map (·.id)) r (ds.foldl (rebuild first base) r) ∧
      ∀ d ∈ ds, ∃ line, (ds.foldl (rebuild first base) r).Holds d.id
        (Agent.build d line base (peersOf first d)) := by
  induction ds generalizing r with
  | nil => exact ⟨.refl _ r, nofun⟩
  | cons d ds ih =>
    obtain ⟨hid, hnodup⟩ := List.nodup_cons.mp hnodup
    obtain ⟨line, hholds, hr⟩ := hfirst d List.mem_cons_self
    obtain ⟨hstep, hbuilt⟩ := rebuild_spec hholds hr
    have hrest : ∀ d' ∈ ds, ∃ line, first.Holds d'.id (Agent.build d' line base []) ∧
        (rebuild first base r d).Holds d'.id (Agent.build d' line base []) := by
      intro d' hd'
      obtain ⟨line', hholds', hr'⟩ := hfirst d' (List.mem_cons_of_mem _ hd')
      have hne : d'.id ∉ [d.id] := by
        rw [List.mem_singleton]
        exact fun heq => hid (List.mem_map.mpr ⟨d', hd', heq⟩)
      exact ⟨line', hholds', hstep.holds hne hr'⟩
    obtain ⟨hextends, hall⟩ := ih hnodup hrest
    refine ⟨hstep.trans hextends, fun d' hd' => ?_⟩
    rcases List.mem_cons.mp hd' with rfl | hd'
    · exact ⟨line, hextends.holds hid hbuilt⟩
    · exact hall d' hd'

/-! ## The roster of a configuration -/

/-- An agent has the common tools that its definition allows, and none that delegates. -/
structure Plain (base : ToolBox ToolBody) (d : AgentDefinition) (agent : Agent) : Prop where
  id_eq : agent.id = d.id
  ordered : agent.tools.Ordered
  names : ∀ name, name ∈ agent.tools.names ↔ name ∈ base.names ∧ d.Allows name
  own : ∀ name ∈ agent.tools.names, agent.tools.get? name = base.get? name
  no_delegation : ∀ peer, Delegation.toolName peer ∉ agent.tools.names

/-- An agent has the common tools that its definition allows, and one tool for each enabled peer to
which it may delegate. That tool leads to an agent with the tools of the peer that do not delegate.
-/
structure Equipped (c : Configuration) (base : ToolBox ToolBody) (r : Roster) (d : AgentDefinition)
    (agent : Agent) : Prop where
  id_eq : agent.id = d.id
  ordered : agent.tools.Ordered
  names : ∀ name, name ∈ agent.tools.names ↔ (name ∈ base.names ∧ d.Allows name) ∨
    ∃ peer ∈ d.allowedAgents, c.Enables peer ∧ name = Delegation.toolName peer
  own : ∀ name ∈ base.names, d.Allows name → agent.tools.get? name = base.get? name
  delegation : ∀ peer ∈ c.definitions, peer.disabled = false → peer.id ∈ d.allowedAgents →
    ∃ post wrapped, agent.tools.get? (Delegation.toolName peer.id) = some (.delegate post peer.id) ∧
      r.agents[post]? = some wrapped ∧ Plain base peer wrapped

section Configured

variable {c : Configuration} (hbase : base.Ordered)
  (hnames : ∀ peer, Delegation.toolName peer ∉ base.names)

include hbase hnames

theorem plain_build (d : AgentDefinition) (line : Line) :
    Plain base d (Agent.build d line base []) where
  id_eq := rfl
  ordered := Agent.ordered_toolsFor hbase d []
  names _ := Agent.mem_names_toolsFor_nil
  own _ hname := Agent.get?_toolsFor_nil (Agent.mem_names_toolsFor_nil.mp hname).2
  no_delegation peer hpeer := hnames peer (Agent.mem_names_toolsFor_nil.mp hpeer).1

theorem equipped_build (hknown : ∀ id, c.Enables id ↔ ∃ post, first.find? id = some post)
    (hfirst : ∀ peer ∈ c.definitions, peer.disabled = false →
      ∃ line, first.Holds peer.id (Agent.build peer line base []))
    (hextends : Extends ids first r) (d : AgentDefinition) (line : Line) :
    Equipped c base r d (Agent.build d line base (peersOf first d)) where
  id_eq := rfl
  ordered := Agent.ordered_toolsFor hbase d _
  names name := by
    refine Agent.mem_names_toolsFor.trans (or_congr_right ⟨?_, ?_⟩)
    · rintro ⟨⟨peer, post⟩, hpeer, rfl⟩
      obtain ⟨hallowed, hfind⟩ := mem_peersOf.mp hpeer
      exact ⟨peer, hallowed, (hknown peer).mpr ⟨post, hfind⟩, rfl⟩
    · rintro ⟨peer, hallowed, henabled, rfl⟩
      obtain ⟨post, hfind⟩ := (hknown peer).mp henabled
      exact ⟨(peer, post), mem_peersOf.mpr ⟨hallowed, hfind⟩, rfl⟩
  own name hname hallows := by
    have hne : ∀ peer ∈ peersOf first d, name ≠ Delegation.toolName peer.1 := by
      rintro peer - rfl
      exact hnames peer.1 hname
    have hother : (Agent.toolsFor d base (peersOf first d)).get? name =
        (Agent.toolsFor d base []).get? name := Agent.get?_toolsFor_of_ne hne
    exact hother.trans (Agent.get?_toolsFor_nil hallows)
  delegation peer hpeer henabled hallowed := by
    obtain ⟨peerLine, post, hfind, hpost⟩ := hfirst peer hpeer henabled
    refine ⟨post, _, ?_, hextends.getElem? hpost, plain_build hbase hnames peer peerLine⟩
    refine Agent.get?_toolsFor_peer (mem_peersOf.mpr ⟨hallowed, hfind⟩) ?_
    rintro ⟨other, there⟩ hother rfl
    have hthere := (mem_peersOf.mp hother).2
    rw [hfind] at hthere
    exact (Option.some.inj hthere).symm

end Configured

/-- The definitions of a configuration have distinct identifiers. -/
theorem nodup_definitions {c : Configuration} (hkeys : (Table.keys c.agents).Nodup) :
    (c.definitions.map (·.id)).Nodup := by
  have hids : c.definitions.map (·.id) =
      Table.keys (if c.agents.isEmpty then Configuration.ownAgents else c.agents) := by
    rw [Configuration.definitions, List.map_map]
    rfl
  rw [hids]
  split_ifs
  · decide
  · exact hkeys

/-- In a configuration without a defect the agent that is used by default is enabled. -/
theorem enables_defaultAgent {c : Configuration} (h : c.check = .ok ()) :
    c.Enables c.defaultAgent := by
  have hnone : c.defect? = none := by
    rw [Configuration.check] at h
    cases hdefect : c.defect? with
    | none => rfl
    | some defect =>
      rw [hdefect] at h
      cases h
  have hany : (c.definitions.any fun d => d.id == c.defaultAgent && !d.disabled) = true := by
    by_contra hany
    simp only [Configuration.defect?, if_neg hany] at hnone
    split_ifs at hnone
    cases hpeer : c.definitions.findSome? (Configuration.peerDefect? c.definitions) <;>
      simp [hpeer] at hnone
  obtain ⟨d, hd, hdefault⟩ := List.any_eq_true.mp hany
  rw [Bool.and_eq_true, beq_iff_eq, Bool.not_eq_true'] at hdefault
  exact ⟨d, hd, hdefault⟩

/-- **Agents get exactly the tools that they are allowed.** From a configuration without a defect,
which names each agent once, and common tools of which none has the name of a delegation, a roster
is built if every enabled agent has a provider. Its identifiers are those of the enabled agents in
order, the one that is used by default among them; and each of these agents has the tools of its
definition. -/
theorem build_of_check (c : Configuration)
    (resolve : AgentDefinition → Except ProviderFailure Line) (base : ToolBox ToolBody)
    (hcheck : c.check = .ok ()) (hkeys : (Table.keys c.agents).Nodup) (hbase : base.Ordered)
    (hnames : ∀ peer, Delegation.toolName peer ∉ base.names)
    (hresolve : ∀ d ∈ c.definitions, d.disabled = false → ∃ line, resolve d = .ok line) :
    ∃ roster, build c.definitions resolve base c.maxDepth = .ok roster ∧
      roster.ids.Pairwise (· < ·) ∧ (∀ id, id ∈ roster.ids ↔ c.Enables id) ∧
      c.defaultAgent ∈ roster.ids ∧
      ∀ d ∈ c.definitions, d.disabled = false →
        ∃ agent, roster.Holds d.id agent ∧ Equipped c base roster d agent := by
  let enabled := c.definitions.filter fun d => !d.disabled
  have hmem (d : AgentDefinition) : d ∈ enabled ↔ d ∈ c.definitions ∧ d.disabled = false := by
    simp [enabled]
  have henables (id : String) : id ∈ enabled.map (·.id) ↔ c.Enables id := by
    simp only [List.mem_map, hmem, Configuration.Enables]
    exact exists_congr fun d => and_right_comm.trans and_assoc
  have hnodup : (enabled.map (·.id)).Nodup :=
    (nodup_definitions hkeys).sublist (List.filter_sublist.map _)
  obtain ⟨first, hfirst, hgrown, hplain⟩ := firstPass_spec base hnodup
    (fun d hd => hresolve d ((hmem d).mp hd).1 ((hmem d).mp hd).2) (empty c.maxDepth)
  obtain ⟨hregrown, hpeers⟩ := foldl_rebuild_spec hnodup fun d hd =>
    (hplain d hd).imp fun line h => ⟨h, h⟩
  let roster := enabled.foldl (rebuild first base) first
  have hknown (id : String) : c.Enables id ↔ ∃ post, first.find? id = some post := by
    rw [exists_find?_iff hgrown (fun _ hid => hid) hplain, henables]
  have hids (id : String) : id ∈ roster.ids ↔ c.Enables id := by
    have hwhole := hgrown.trans hregrown
    rw [mem_ids, exists_find?_iff hwhole
      (fun _ hid => or_self_iff.mp (List.mem_append.mp hid)) hpeers, henables]
  refine ⟨roster, by rw [build, hfirst], ?_, hids, (hids _).mpr (enables_defaultAgent hcheck), ?_⟩
  · exact pairwise_ids (hregrown.nodup (hgrown.nodup List.nodup_nil))
  · intro d hd hdisabled
    obtain ⟨line, hholds⟩ := hpeers d ((hmem d).mpr ⟨hd, hdisabled⟩)
    refine ⟨_, hholds, equipped_build hbase hnames hknown ?_ hregrown d line⟩
    intro peer hpeer henabled
    exact hplain peer ((hmem peer).mpr ⟨hpeer, henabled⟩)

/-- In the usual configuration the agent that changes files may delegate to the one that reads. -/
theorem exists_usual_roster : ∃ roster coder,
    build Configuration.usual.definitions (fun _ => .ok ⟨0, default⟩)
      (.ofList [(⟨"ls", "", [], []⟩, .patient)]) Configuration.usual.maxDepth = .ok roster ∧
    roster.Holds "coder" coder ∧ "ls" ∈ coder.tools.names ∧ "agent_task" ∈ coder.tools.names := by
  have hnames (peer : String) : Delegation.toolName peer ∉
      (ToolBox.ofList [(⟨"ls", "", [], []⟩, ToolBody.patient)]).names := by
    intro hname
    have hls : Delegation.toolName peer = "ls" := List.mem_singleton.mp hname
    have hletters := congrArg String.toList hls
    simp [Delegation.toolName, toString] at hletters
  obtain ⟨roster, hroster, -, -, -, hagents⟩ := build_of_check Configuration.usual
    (fun _ => .ok ⟨0, default⟩) _ rfl List.nodup_nil (ToolBox.ordered_ofList _) hnames
    fun _ _ _ => ⟨_, rfl⟩
  obtain ⟨coder, hcoder, hequipped⟩ := hagents _ List.mem_cons_self rfl
  refine ⟨roster, coder, hroster, hcoder, ?_, ?_⟩
  · refine (hequipped.names "ls").mpr (.inl ⟨by decide, fun _ hallowed => ?_⟩)
    cases hallowed
  · refine (hequipped.names "agent_task").mpr (.inr ⟨"task", List.mem_cons_self, ?_, rfl⟩)
    exact ⟨_, List.mem_cons_of_mem _ List.mem_cons_self, rfl, rfl⟩

end Roster

end AgentDesk
