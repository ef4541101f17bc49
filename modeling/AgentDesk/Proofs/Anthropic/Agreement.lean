import AgentDesk.Proofs.Anthropic.Blocks
import AgentDesk.Proofs.Anthropic.Chunking
import Mathlib.Data.List.Induction
import Mathlib.Data.List.Nodup
/-!
# The events of an answer agree with its summary

A decoder says twice what an answer is: bit by bit, and at the end as a whole. It keeps the calls of
open blocks by index, while the message that follows its events keeps them by identifier. Both see
the same blocks, however these interleave; only the order differs, for the summary has the calls in
the order in which their blocks close.

## Main definitions

* `Anthropic.Decoder.takes` — what a decoder makes of notices one after another.
* `Anthropic.Decoder.Spells` — what was said about texts and counts, against the notices so far.
* `Anthropic.Decoder.Tracks` — what is known of calls, against the notices so far.
-/

namespace AgentDesk

namespace Anthropic

namespace Decoder

/-- What a decoder makes of notices one after another. -/
def takes (d : Decoder) : List Notice → Result
  | [] => ([], d)
  | n :: ns =>
    let (said, d) := d.take n
    let (more, d) := takes d ns
    (said ++ more, d)

variable {d : Decoder} {n : Notice} {ns : List Notice} {said : List StreamEvent}

theorem steps_eq_takes (d : Decoder) (events : List Json) :
    d.steps events = d.takes (events.map noticeOf) := by
  induction events generalizing d with
  | nil => rfl
  | cons event events ih => simp only [steps, step_eq_take, List.map_cons, takes, ih]

theorem takes_snoc (d : Decoder) (ns : List Notice) (n : Notice) :
    d.takes (ns ++ [n]) =
      ((d.takes ns).1 ++ ((d.takes ns).2.take n).1, ((d.takes ns).2.take n).2) := by
  induction ns generalizing d with
  | nil => simp [takes]
  | cons n' ns ih => simp [takes, ih, List.append_assoc]

/-! ## Texts and counts -/

/-- The texts and counts that a decoder has, and those that it said, are those of the notices. -/
structure Spells (ns : List Notice) (said : List StreamEvent) (d : Decoder) : Prop where
  content : d.content = String.join (ns.map Notice.text)
  text : String.join (said.map StreamEvent.text) = String.join (ns.map Notice.text)
  thought : String.join (said.map StreamEvent.thought) = String.join (ns.map Notice.thought)
  signed : String.join (said.map StreamEvent.signed) = String.join (ns.map Notice.signed)
  tokens : d.tokens = tokensIn ns
  quiet : ∀ e ∈ said, e.ends = false

theorem spells_start : Spells [] [] start := ⟨rfl, rfl, rfl, rfl, rfl, nofun⟩

/-- What a decoder says about one notice. -/
theorem said_take (d : Decoder) (hn : n.ends = false) :
    (d.take n).2.content = d.content ++ n.text ∧
    String.join ((d.take n).1.map StreamEvent.text) = n.text ∧
    String.join ((d.take n).1.map StreamEvent.thought) = n.thought ∧
    String.join ((d.take n).1.map StreamEvent.signed) = n.signed ∧
    ∀ e ∈ (d.take n).1, e.ends = false := by
  cases n with
  | completes | fails cause => cases hn
  | grows index text | closes index =>
    unfold take
    dsimp only
    split <;> simp [Notice.text, Notice.thought, Notice.signed, StreamEvent.text,
      StreamEvent.thought, StreamEvent.signed, StreamEvent.ends]
  | _ =>
    simp [take, Notice.text, Notice.thought, Notice.signed, StreamEvent.text,
      StreamEvent.thought, StreamEvent.signed, StreamEvent.ends]

theorem Spells.take (h : Spells ns said d) (hn : n.ends = false) :
    Spells (ns ++ [n]) (said ++ (d.take n).1) (d.take n).2 := by
  obtain ⟨hcontent, htext, hthought, hsigned, hquiet⟩ := d.said_take hn
  refine ⟨?_, ?_, ?_, ?_, ?_, ?_⟩
  · simp [hcontent, h.content]
  · simp [htext, h.text]
  · simp [hthought, h.thought]
  · simp [hsigned, h.signed]
  · rw [tokensIn_snoc, ← h.tokens]
    cases n with
    | grows index text | closes index =>
      unfold Decoder.take
      dsimp only
      split <;> rfl
    | _ => rfl
  · intro e he
    rcases List.mem_append.mp he with hin | hin
    · exact h.quiet e hin
    · exact hquiet e hin

/-! ## Calls -/

/-- The calls of the message that follows what a decoder said are those of the blocks so far; the
decoder has the calls of the open blocks by index, and those of the others in some order. -/
structure Tracks (ns : List Notice) (said : List StreamEvent) (d : Decoder) : Prop where
  calls : announcedCalls [] said = (toolBlocks ns).map (·.call)
  opened : ∀ index call, Table.get? index d.openCalls = some call ↔
    ⟨index, call⟩ ∈ toolBlocks ns ∧ call.finished = false
  finished : d.calls.Perm (((toolBlocks ns).map (·.call)).filter (·.finished))

theorem tracks_start : Tracks [] [] start := ⟨rfl, by simp [start, Table.get?, toolBlocks], .nil⟩

/-- The block that is open at an index, between the others. -/
theorem Tracks.split (h : Tracks ns said d) (hids : ((toolBlocks ns).map (·.call.id)).Nodup)
    {index : Nat} {call : ToolCall} (hget : Table.get? index d.openCalls = some call) :
    call.finished = false ∧ ∃ before after, toolBlocks ns = before ++ ⟨index, call⟩ :: after ∧
      (∀ b ∈ before ++ after, ¬ (b.index = index ∧ b.call.finished = false)) ∧
      ∀ b ∈ before, b.call.id ≠ call.id := by
  obtain ⟨hin, hopen⟩ := (h.opened index call).mp hget
  obtain ⟨before, after, hblocks⟩ := List.append_of_mem hin
  have hne : ∀ b ∈ before ++ after, b.call.id ≠ call.id := by
    rw [hblocks, List.map_append, List.map_cons, List.nodup_middle, ← List.map_append] at hids
    intro b hb hsame
    exact (List.nodup_cons.mp hids).1 (List.mem_map.mpr ⟨b, hb, hsame⟩)
  refine ⟨hopen, before, after, hblocks, ?_, fun b hb => hne b (List.mem_append_left after hb)⟩
  rintro b hb ⟨rfl, hb'⟩
  have hmem : b ∈ toolBlocks ns := by
    rw [hblocks]
    exact List.mem_append.mpr ((List.mem_append.mp hb).imp_right (List.mem_cons_of_mem _))
  have hsame := hget.symm.trans ((h.opened b.index b.call).mpr ⟨hmem, hb'⟩)
  exact hne b hb (congrArg ToolCall.id (Option.some.inj hsame)).symm

/-- A change of the open block at an index finds the one block. -/
theorem map_changeOpen {index : Nat} {call : ToolCall} {before after : List ToolBlock}
    (f : ToolCall → ToolCall) (hopen : call.finished = false)
    (hothers : ∀ b ∈ before ++ after, ¬ (b.index = index ∧ b.call.finished = false)) :
    (before ++ ⟨index, call⟩ :: after).map (ToolBlock.changeOpen index f) =
      before ++ ⟨index, f call⟩ :: after := by
  have hsame : ∀ bs : List ToolBlock, (∀ b ∈ bs, b ∈ before ++ after) →
      bs.map (ToolBlock.changeOpen index f) = bs := by
    intro bs hbs
    calc bs.map (ToolBlock.changeOpen index f)
      _ = bs.map id := List.map_congr_left fun b hb => if_neg (hothers b (hbs b hb))
      _ = bs := List.map_id bs
  rw [List.map_append, List.map_cons, hsame before fun b => List.mem_append_left after,
    hsame after fun b => List.mem_append_right before]
  simp [ToolBlock.changeOpen, hopen]

/-- The open block at an index is the one block. -/
theorem mem_open_iff {index : Nat} {call c : ToolCall} {before after : List ToolBlock}
    (hothers : ∀ b ∈ before ++ after, ¬ (b.index = index ∧ b.call.finished = false)) :
    ⟨index, c⟩ ∈ before ++ ⟨index, call⟩ :: after ∧ c.finished = false ↔
      c = call ∧ c.finished = false := by
  refine and_congr_left fun hc => ?_
  rw [List.mem_append, List.mem_cons]
  constructor
  · rintro (hin | heq | hin)
    · exact absurd ⟨rfl, hc⟩ (hothers _ (List.mem_append_left after hin))
    · exact congrArg ToolBlock.call heq
    · exact absurd ⟨rfl, hc⟩ (hothers _ (List.mem_append_right before hin))
  · rintro rfl
    exact .inr (.inl rfl)

/-- A block that changes, and is closed perhaps, is tracked if the table of open blocks follows. -/
theorem Tracks.change (h : Tracks ns said d) (hids : ((toolBlocks ns).map (·.call.id)).Nodup)
    {index : Nat} {call : ToolCall} (hget : Table.get? index d.openCalls = some call)
    {f : ToolCall → ToolCall} {e : StreamEvent} {d' : Decoder}
    (hn : ∀ b, ToolBlock.next n b = b.changeOpen index f) (hfresh : fresh n = [])
    (he : ∀ calls, e.onCalls calls = ToolCall.changeIn call.id f calls)
    (hself : Table.get? index d'.openCalls = if (f call).finished then none else some (f call))
    (hother : ∀ i ≠ index, Table.get? i d'.openCalls = Table.get? i d.openCalls)
    (hcalls : d'.calls = if (f call).finished then d.calls ++ [f call] else d.calls) :
    Tracks (ns ++ [n]) (said ++ [e]) d' := by
  obtain ⟨hopen, before, after, hblocks, hothers, hbefore⟩ := h.split hids hget
  have hnext : toolBlocks (ns ++ [n]) = before ++ ⟨index, f call⟩ :: after := by
    rw [toolBlocks_snoc, hfresh, List.append_nil, List.map_congr_left fun b _ => hn b, hblocks,
      map_changeOpen f hopen hothers]
  refine ⟨?_, fun i c => ?_, ?_⟩
  · rw [announcedCalls_append, h.calls, hblocks, hnext, List.map_append, List.map_append]
    refine (he _).trans (ToolCall.changeIn_append_cons f ?_ rfl)
    simpa using hbefore
  · rw [hnext]
    by_cases hi : i = index
    · subst hi
      rw [hself, mem_open_iff hothers]
      cases hf : (f call).finished with
      | true =>
        refine ⟨nofun, ?_⟩
        rintro ⟨rfl, hc⟩
        cases hf.symm.trans hc
      | false =>
        constructor
        · rintro ⟨⟩
          exact ⟨rfl, hf⟩
        · rintro ⟨rfl, -⟩
          rfl
    · rw [hother i hi, h.opened, hblocks]
      simp [hi]
  · have hperm := h.finished
    rw [hblocks, List.map_append, List.map_cons, List.filter_append,
      List.filter_cons_of_neg (by simp [hopen])] at hperm
    rw [hcalls, hnext, List.map_append, List.map_cons, List.filter_append]
    cases hf : (f call).finished with
    | true =>
      rw [List.filter_cons_of_pos (by exact hf)]
      exact (hperm.append_right [f call]).trans
        ((List.perm_append_singleton _ _).trans List.perm_middle.symm)
    | false =>
      rw [List.filter_cons_of_neg (by simp [hf])]
      exact hperm

/-- A block that opens is tracked, if it has an identifier of its own and an index that is free. -/
theorem Tracks.open (h : Tracks ns said d) {index : Nat} {id : String} (name : String)
    (hid : id ∉ (toolBlocks ns).map (·.call.id))
    (hfree : ∀ b ∈ toolBlocks ns, b.index = index → b.call.finished) :
    Tracks (ns ++ [.opens index id name]) (said ++ [.toolStart ⟨id, name, "", false⟩])
      { d with openCalls := Table.put index ⟨id, name, "", false⟩ d.openCalls } := by
  have hblocks : toolBlocks (ns ++ [.opens index id name]) =
      toolBlocks ns ++ [⟨index, id, name, "", false⟩] :=
    (toolBlocks_snoc ns _).trans (congrArg (· ++ _) (List.map_id' _))
  refine ⟨?_, fun i c => ?_, ?_⟩
  · rw [announcedCalls_append, h.calls, hblocks, List.map_append]
    refine ToolCall.recordIn_of_notMem fun hin => hid ?_
    rwa [List.map_map] at hin
  · rw [hblocks, List.mem_append, List.mem_singleton, ToolBlock.mk.injEq, or_and_right, ← h.opened]
    by_cases hi : i = index
    · subst hi
      have hnone : Table.get? i d.openCalls ≠ some c := by
        intro hget
        obtain ⟨hin, hopen⟩ := (h.opened i c).mp hget
        cases hopen.symm.trans (hfree _ hin rfl)
      rw [Table.get?_put_self]
      constructor
      · rintro ⟨⟩
        exact .inr ⟨⟨rfl, rfl⟩, rfl⟩
      · rintro (hget | ⟨⟨-, rfl⟩, -⟩)
        · exact absurd hget hnone
        · rfl
    · rw [Table.get?_put_of_ne hi]
      simp [hi]
  · rw [hblocks, List.map_append, List.filter_append]
    exact (List.append_nil _).symm ▸ h.finished

/-- A notice that no block and no call is concerned with. -/
theorem Tracks.keep (h : Tracks ns said d) (hblocks : toolBlocks (ns ++ [n]) = toolBlocks ns)
    {more : List StreamEvent} (hmore : ∀ calls, announcedCalls calls more = calls) {d' : Decoder}
    (hopen : d'.openCalls = d.openCalls) (hcalls : d'.calls = d.calls) :
    Tracks (ns ++ [n]) (said ++ more) d' := by
  refine ⟨?_, ?_, ?_⟩
  · rw [announcedCalls_append, hmore, hblocks, h.calls]
  · rw [hblocks, hopen]
    exact h.opened
  · rw [hblocks, hcalls]
    exact h.finished

/-- A notice about an index without an open block says nothing. -/
theorem Tracks.ignore (h : Tracks ns said d) {index : Nat}
    (hget : Table.get? index d.openCalls = none) {f : ToolCall → ToolCall}
    (hn : ∀ b, ToolBlock.next n b = b.changeOpen index f) (hfresh : fresh n = []) :
    Tracks (ns ++ [n]) (said ++ []) d := by
  refine h.keep ?_ (fun _ => rfl) rfl rfl
  calc toolBlocks (ns ++ [n])
    _ = (toolBlocks ns).map (ToolBlock.next n) := by
      rw [toolBlocks_snoc, hfresh, List.append_nil]
    _ = (toolBlocks ns).map id := by
      refine List.map_congr_left fun b hb => (hn b).trans (if_neg ?_)
      rintro ⟨rfl, hopen⟩
      cases hget.symm.trans ((h.opened b.index b.call).mpr ⟨hb, hopen⟩)
    _ = toolBlocks ns := List.map_id _

/-- **One more notice keeps the calls tracked.** -/
theorem Tracks.take (h : Tracks ns said d) (hrestarts : NeverRestarts (ns ++ [n]))
    (hids : ((toolBlocks (ns ++ [n])).map (·.call.id)).Nodup) (hn : n.ends = false) :
    Tracks (ns ++ [n]) (said ++ (d.take n).1) (d.take n).2 := by
  rw [ids_snoc, List.nodup_append] at hids
  obtain ⟨hids, -, hnew⟩ := hids
  cases n with
  | completes | fails cause => cases hn
  | opens index id name =>
    exact h.open name (fun hin => hnew id hin id (List.mem_singleton_self id) rfl)
      (hrestarts.of_snoc.2 index rfl)
  | grows index text =>
    cases hget : Table.get? index d.openCalls with
    | none =>
      rw [Decoder.take, hget]
      exact h.ignore hget (fun _ => rfl) rfl
    | some call =>
      rw [Decoder.take, hget]
      have hopen : (ToolCall.extend text call).finished = false := (h.split hids hget).1
      refine h.change hids hget (f := ToolCall.extend text) (fun _ => rfl) rfl
        (fun _ => rfl) ?_ ?_ ?_
      · rw [hopen]
        exact Table.get?_put_self index _ d.openCalls
      · exact fun i hi => Table.get?_put_of_ne hi _ d.openCalls
      · rw [hopen]
        rfl
  | closes index =>
    cases hget : Table.get? index d.openCalls with
    | none =>
      rw [Decoder.take, hget]
      exact h.ignore hget (fun _ => rfl) rfl
    | some call =>
      rw [Decoder.take, hget]
      refine h.change hids hget (f := ToolCall.finish) (fun _ => rfl) rfl (fun _ => rfl) ?_ ?_ ?_
      · exact Table.get?_erase_self index d.openCalls
      · exact fun i hi => Table.get?_erase_of_ne hi d.openCalls
      · rfl
  | _ =>
    refine h.keep ?_ (fun _ => rfl) rfl rfl
    exact (toolBlocks_snoc ns _).trans ((List.append_nil _).trans (List.map_id' _))

/-- What a decoder makes of the notices before the end of an answer. -/
theorem agrees_takes (hrestarts : NeverRestarts ns)
    (hids : ((toolBlocks ns).map (·.call.id)).Nodup) (hns : ∀ n ∈ ns, n.ends = false) :
    Spells ns (start.takes ns).1 (start.takes ns).2 ∧
      Tracks ns (start.takes ns).1 (start.takes ns).2 := by
  induction ns using List.reverseRecOn with
  | nil => exact ⟨spells_start, tracks_start⟩
  | append_singleton ns n ih =>
    have hids' : ((toolBlocks ns).map (·.call.id)).Nodup := by
      rw [ids_snoc] at hids
      exact (List.nodup_append.mp hids).1
    have hn : n.ends = false := hns n (by simp)
    obtain ⟨hspells, htracks⟩ := ih hrestarts.of_snoc.1 hids' fun n' hn' => hns n' (by simp [hn'])
    rw [takes_snoc]
    exact ⟨hspells.take hn, htracks.take hrestarts hids hn⟩

end Decoder

/-- **The events of an answer agree with its summary.** If the blocks of tool calls have different
identifiers, none opens at the index of an open one, and all are closed before the answer ends, then
a message that follows the events has the text of the summary and its calls, in the order in which
their blocks open, each with the input that its block got. -/
theorem events_agree {events : List Json} {stop : Json} {m : Message}
    {log : List (Timestamp × StreamEvent)} (hstop : noticeOf stop = .completes)
    (hopen : ∀ event ∈ events, (noticeOf event).ends = false)
    (hids : ((toolBlocks (events.map noticeOf)).map (·.call.id)).Nodup)
    (hrestarts : NeverRestarts (events.map noticeOf))
    (hclosed : ∀ b ∈ toolBlocks (events.map noticeOf), b.call.finished)
    (hm : m.parts = []) (hlog : log.map (·.2) = (Decoder.start.steps events).1) :
    ∃ a m', (Decoder.start.steps (events ++ [stop])).1 = log.map (·.2) ++ [.complete a] ∧
      TurnPhase.applyEvents m log = .ok m' ∧
      m'.content = a.content ∧
      a.content = String.join ((events.map noticeOf).map Notice.text) ∧
      m'.toolCalls = (toolBlocks (events.map noticeOf)).map (·.call) ∧
      m'.toolCalls.Perm a.toolCalls ∧
      (∀ c ∈ m'.toolCalls, c.finished) ∧
      m'.thinking = String.join ((events.map noticeOf).map Notice.thought) ∧
      m'.signature = String.join ((events.map noticeOf).map Notice.signed) ∧
      a.tokens = tokensIn (events.map noticeOf) := by
  have hns : ∀ n ∈ events.map noticeOf, n.ends = false := by
    intro n hn
    obtain ⟨event, hevent, rfl⟩ := List.mem_map.mp hn
    exact hopen event hevent
  obtain ⟨hspells, htracks⟩ := Decoder.agrees_takes hrestarts hids hns
  rw [Decoder.steps_eq_takes] at hlog
  rw [← hlog] at hspells htracks
  have hquiet : ∀ cause, StreamEvent.failed cause ∉ log.map (·.2) := fun cause hin =>
    nomatch hspells.quiet _ hin
  obtain ⟨m', happly, hcalls, hcontent, hthinking, hsignature⟩ :=
    TurnPhase.applyEvents_eq_ok m hquiet
  have hempty : m.content = "" ∧ m.toolCalls = [] ∧ m.thinking = "" ∧ m.signature = "" := by
    simp [Message.content, Message.toolCalls, Message.thinking, Message.signature,
      Message.reasoning?, hm]
  obtain ⟨hcontent₀, hcalls₀, hthinking₀, hsignature₀⟩ := hempty
  rw [hcalls₀, htracks.calls] at hcalls
  have hfinished : ∀ c ∈ m'.toolCalls, c.finished := by
    intro c hc
    rw [hcalls] at hc
    obtain ⟨b, hb, rfl⟩ := List.mem_map.mp hc
    exact hclosed b hb
  refine ⟨(Decoder.start.takes (events.map noticeOf)).2.answer, m', ?_, happly, ?_,
    hspells.content, hcalls, ?_, hfinished, ?_, ?_, hspells.tokens⟩
  · rw [Decoder.steps_eq_takes, List.map_append, List.map_singleton, Decoder.takes_snoc, hstop,
      ← hlog]
    rfl
  · rw [hcontent, hcontent₀, String.empty_append, hspells.text]
    exact hspells.content.symm
  · have hperm := htracks.finished
    rw [← hcalls, List.filter_eq_self.mpr hfinished] at hperm
    exact hperm.symm
  · rw [hthinking, hthinking₀, String.empty_append, hspells.thought]
  · rw [hsignature, hsignature₀, String.empty_append, hspells.signed]

/-- An event about the block at an index. -/
def blockEvent (kind : String) (index : Nat) (members : List (String × Json)) : Json :=
  .object (("type", .string kind) :: ("index", .nat index) :: members)

/-- Two blocks that interleave; the second one closes first. -/
def interleavedEvents : List Json :=
  let call (id : String) : List (String × Json) :=
    [("content_block", .object
      [("type", .string "tool_use"), ("id", .string id), ("name", .string "ls")])]
  let input (text : String) : List (String × Json) :=
    [("delta", .object [("type", .string "input_json_delta"), ("partial_json", .string text)])]
  [.object [("type", .string "message_start"), ("message", .object
      [("usage", .object [("input_tokens", .nat 7), ("output_tokens", .nat 1)])])],
    blockEvent "content_block_start" 1 (call "c1"),
    blockEvent "content_block_start" 2 (call "c2"),
    blockEvent "content_block_delta" 1 (input "[1,"),
    blockEvent "content_block_delta" 2 (input "[3]"),
    blockEvent "content_block_stop" 2 [],
    blockEvent "content_block_delta" 1 (input "2]"),
    blockEvent "content_block_stop" 1 [],
    .object [("type", .string "message_delta"), ("usage", .object [("output_tokens", .nat 9)])]]

/-- What a decoder says about them, all at one time. -/
def interleavedLog : List (Timestamp × StreamEvent) :=
  (Decoder.start.steps interleavedEvents).1.map fun e => (default, e)

theorem events_agree_interleaved : ∃ a m',
    (Decoder.start.steps (interleavedEvents ++ [.object [("type", .string "message_stop")]])).1 =
      interleavedLog.map (·.2) ++ [.complete a] ∧
    TurnPhase.applyEvents default interleavedLog = .ok m' ∧
    m'.toolCalls = [⟨"c1", "ls", "[1,2]", true⟩, ⟨"c2", "ls", "[3]", true⟩] ∧
    m'.toolCalls.Perm a.toolCalls ∧ a.tokens = ⟨7, 9, 0, 0⟩ := by
  have hstop : noticeOf (.object [("type", .string "message_stop")]) = .completes := by
    decide +kernel
  have hlog : interleavedLog.map (·.2) = (Decoder.start.steps interleavedEvents).1 := by
    rw [interleavedLog, List.map_map]
    exact List.map_id' _
  obtain ⟨a, m', hsteps, happly, -, -, hcalls, hperm, -, -, -, htokens⟩ :=
    events_agree (m := default) hstop (by decide +kernel) (by decide +kernel) (by decide +kernel)
      (by decide +kernel) rfl hlog
  exact ⟨a, m', hsteps, happly, hcalls.trans (by decide +kernel), hperm,
    htokens.trans (by decide +kernel)⟩

end Anthropic

end AgentDesk
