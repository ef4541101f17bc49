import AgentDesk.CommandLine.Chat
import AgentDesk.Proofs.Desk.Takers
/-!
# The answers in a chat

A chat listens to one turn at a time. A line that is typed while the session is busy waits in its
queue, so that the turn that is listened to is not given up for it. But a turn leaves the tracker
before it delivers its outcome and the chat hears of it. A line that is typed in between starts a
turn of its own, the chat listens to that one, and the end of the turn before is never printed.

## Main definitions

* `Chat.run` — a chat behind some moves.
* `ChatEvent`, `Chat.log` — what some moves tell the user, and the turns that they give up.
* `Chat.startedIn` — the turns that some moves start.
* `Chat.Overtakes` — a line is typed when a turn has left the tracker and was not heard of.
* `Chat.Answers` — what becomes of the ends of turns.
-/

namespace AgentDesk

/-! ## Prompts that are submitted -/

namespace Desk

variable {d d' : Desk} {post : PostId} {parent : TokenId} {session prompt : String}
  {files : List Binary}

/-- A prompt of a session that is not busy starts the turn that is next. -/
theorem submit_started {i : Nat}
    (h : d.submit post parent session prompt files = some (.started i, d')) :
    i = d.cards.length ∧ (∃ p, d.posts[post]? = some p ∧ p.tracker.isSessionBusy session = false) ∧
      ∃ t, d'.cards = d.cards ++ [t] ∧ t.post = post ∧ t.setup.sessionId = session := by
  obtain ⟨p, hp, h⟩ := Option.map_eq_some_iff.mp h
  cases hbusy : p.tracker.isSessionBusy session with
  | true => simp [Tracker.submit, hbusy] at h
  | false =>
    simp only [Tracker.submit, hbusy, Bool.false_eq_true, if_false, Prod.mk.injEq,
      Submission.started.injEq] at h
    obtain ⟨rfl, rfl⟩ := h
    exact ⟨(List.length_map _).symm, ⟨p, hp, hbusy⟩, _, by simp [cards, changePost]; rfl, rfl, rfl⟩

theorem submit_of_idle {p : Post} (hp : d.posts[post]? = some p)
    (hidle : p.tracker.isSessionBusy session = false) :
    ∃ d', d.submit post parent session prompt files = some (.started d.cards.length, d') := by
  simp [submit, hp, Tracker.submit, hidle, cards, changePost]

/-- What a turn has delivered stays delivered. -/
theorem outcomeOf?_run {i : Nat} {outcome : TurnOutcome} (moves : List DeskMove)
    (h : d.outcomeOf? i = some outcome) : (d.run moves).outcomeOf? i = some outcome := by
  have hall := deliveries_run i moves d
  rw [h] at hall
  refine Option.mem_toList.mp ?_
  rw [← hall]
  exact List.mem_cons_self

/-- No move takes a turn away. -/
theorem length_le_move (d : Desk) (m : DeskMove) : d.cards.length ≤ (d.move m).cards.length := by
  rcases d.cards_move m with ⟨j, t, -, h⟩ | h | ⟨t, h, -⟩ <;> simp [h]

end Desk

/-! ## Moves of a chat -/

/-- What a move tells the user: the end of a turn is printed, a prompt waits, or the user is asked
to type. Nothing is printed about a turn that is given up. -/
inductive ChatEvent where
  | heard (turn : Nat) (outcome : TurnOutcome)
  | overtaken (turn : Nat)
  | queued (waiting : Nat)
  | prompted

namespace ChatEvent

/-- What is printed. -/
def pieces : ChatEvent → List Print
  | .heard _ outcome => Chat.ending outcome ++ [Chat.prompt]
  | .overtaken _ => []
  | .queued waiting => [.out s!"  (queued, {waiting} waiting)\n", Chat.prompt]
  | .prompted => [Chat.prompt]

/-- The turn that is not listened to any more. -/
def turn? : ChatEvent → Option Nat
  | .heard i _ | .overtaken i => some i
  | _ => none

/-- The turn whose end is printed. -/
def heard? : ChatEvent → Option Nat
  | .heard i _ => some i
  | _ => none

/-- All turns that are not listened to any more were heard of, unless one is given up. -/
theorem filterMap_heard?_eq_iff (events : List ChatEvent) :
    events.filterMap heard? = events.filterMap turn? ↔ ∀ i, .overtaken i ∉ events := by
  have hle : ∀ rest : List ChatEvent,
      (rest.filterMap heard?).length ≤ (rest.filterMap turn?).length := by
    intro rest
    induction rest with
    | nil => exact Nat.le_refl _
    | cons e rest ih => cases e <;> simp [List.filterMap_cons, heard?, turn?] <;> omega
  induction events with
  | nil => simp
  | cons e events ih =>
    cases e with
    | heard | queued | prompted => simp [List.filterMap_cons, heard?, turn?, ih]
    | overtaken i =>
      refine ⟨fun heq => ?_, fun hnone => absurd List.mem_cons_self (hnone i)⟩
      have hlength := congrArg List.length heq
      simp only [List.filterMap_cons, heard?, turn?, List.length_cons] at hlength
      have hshorter := hle events
      omega

end ChatEvent

namespace Chat

variable {c c' : Chat} {m : ChatMove} {line : String} {i : Nat}

/-- One move; a move that is not possible changes nothing. -/
def after (c : Chat) (m : ChatMove) : Chat := (c.step? m).getD c

/-- A chat behind some moves. -/
def run (c : Chat) (moves : List ChatMove) : Chat := moves.foldl after c

/-- A line is a prompt: the chat goes on, and the line is neither empty nor a farewell. -/
def asks (c : Chat) (line : String) : Bool :=
  !c.closed && !farewells.elem (Text.trim line) && !(Text.trim line).isEmpty

/-- What becomes of a line that is a prompt. -/
def submission? (c : Chat) (line : String) : Option (Submission × Desk) :=
  if c.asks line then
    c.desk.submit c.post c.root c.session (Text.trim line) c.attachments
  else none

/-- The turn that a move starts. -/
def started? (c : Chat) : ChatMove → Option Nat
  | .typed line =>
    match c.submission? line with
    | some (.started i, _) => some i
    | _ => none
  | _ => none

/-- What a move tells the user, or the turn that it gives up. -/
def event? (c : Chat) : ChatMove → Option ChatEvent
  | .typed line =>
    if c.asks line then
      match c.submission? line with
      | some (.started _, _) => c.pending.map .overtaken
      | some (.queued, desk) => some (.queued { c with desk }.waiting)
      | none => none
    else if c.closed || farewells.elem (Text.trim line) then none
    else some .prompted
  | .heard => if c.closed then none
    else c.pending.bind fun i => (c.desk.outcomeOf? i).map (.heard i)
  | .ended | .worked _ => none

/-- The turns that some moves start. -/
def startedIn : Chat → List ChatMove → List Nat
  | _, [] => []
  | c, m :: moves => (c.started? m).toList ++ startedIn (c.after m) moves

/-- What some moves tell the user, and the turns that they give up. -/
def log : Chat → List ChatMove → List ChatEvent
  | _, [] => []
  | c, m :: moves => (c.event? m).toList ++ log (c.after m) moves

/-- A prompt is typed while the chat listens to a turn, but its session is not busy. -/
def Overtakes (c : Chat) (line : String) (i : Nat) : Prop :=
  c.asks line ∧ c.pending = some i ∧
    ∃ p, c.desk.posts[c.post]? = some p ∧ p.tracker.isSessionBusy c.session = false

/-! ## One move -/

/-- **What a move does**, with the turn that it starts and what it tells the user. -/
inductive Goes (c : Chat) : ChatMove → Chat → Option Nat → Option ChatEvent → Prop where
  | rests (m : ChatMove) : Goes c m c none none
  | closes (m : ChatMove) : Goes c m { c with closed := true } none none
  | prompts (line : String) : Goes c (.typed line) (c.print [prompt]) none (some .prompted)
  | starts (line : String) (i : Nat) (desk : Desk) (asks : c.asks line)
      (submitted : c.desk.submit c.post c.root c.session (Text.trim line) c.attachments =
        some (.started i, desk)) :
      Goes c (.typed line) { c with desk, attachments := [], pending := some i } (some i)
        (c.pending.map .overtaken)
  | queues (line : String) (desk : Desk)
      (submitted : c.desk.submit c.post c.root c.session (Text.trim line) c.attachments =
        some (.queued, desk)) (event : ChatEvent)
      (waits : event = .queued { c with desk }.waiting) :
      Goes c (.typed line) ({ c with desk, attachments := [] }.print event.pieces) none (some event)
  | hears (i : Nat) (outcome : TurnOutcome) (listens : c.pending = some i)
      (delivered : c.desk.outcomeOf? i = some outcome) :
      Goes c .heard ({ c with pending := none }.print (ending outcome ++ [prompt])) none
        (some (.heard i outcome))
  | works (task : TaskId) (desk : Desk) (steps : c.desk.step? task = some desk) :
      Goes c (.worked task) { c with desk } none none

theorem after_typed (c : Chat) (line : String) : c.after (.typed line) =
    if c.closed then c
    else if farewells.elem (Text.trim line) then { c with closed := true }
    else if (Text.trim line).isEmpty then c.print [prompt]
    else c.submit (Text.trim line) := by
  simp only [after, step?]
  split <;> rfl

theorem goes_typed (c : Chat) (line : String) :
    Goes c (.typed line) (c.after (.typed line)) (c.started? (.typed line))
      (c.event? (.typed line)) := by
  have hstarted : ¬ c.asks line → c.started? (.typed line) = none := fun hasks => by
    simp [started?, submission?, hasks]
  rw [after_typed]
  split
  · rename_i hclosed
    have hasks : ¬ c.asks line := by simp [asks, hclosed]
    have hevent : c.event? (.typed line) = none := by simp [event?, hasks, hclosed]
    rw [hstarted hasks, hevent]
    exact .rests _
  rename_i hclosed
  split
  · rename_i hbye
    have hasks : ¬ c.asks line := by simp only [asks, hbye]; simp
    have hevent : c.event? (.typed line) = none := by simp only [event?, hasks, hbye]; simp
    rw [hstarted hasks, hevent]
    exact .closes _
  rename_i hbye
  split
  · rename_i hempty
    have hasks : ¬ c.asks line := by simp only [asks, hempty]; simp
    have hevent : c.event? (.typed line) = some .prompted := by
      simp only [event?, hasks, hbye, hclosed]; simp
    rw [hstarted hasks, hevent]
    exact .prompts _
  rename_i hempty
  have hasks : c.asks line := by simp only [asks, hclosed, hbye, hempty]; simp
  simp only [submit, started?, event?, submission?, hasks, if_true]
  cases hsubmit : c.desk.submit c.post c.root c.session (Text.trim line) c.attachments with
  | none => exact .rests _
  | some r =>
    obtain ⟨_ | _, desk⟩ := r
    · exact .starts line _ desk hasks hsubmit
    · exact .queues line desk hsubmit _ rfl

theorem goes_after (c : Chat) (m : ChatMove) :
    Goes c m (c.after m) (c.started? m) (c.event? m) := by
  cases m with
  | typed line => exact c.goes_typed line
  | ended =>
    simp only [after, step?]
    split
    · exact .rests _
    · exact .closes _
  | heard =>
    simp only [after, started?, event?, step?]
    split
    · exact .rests _
    rename_i hclosed
    have hsame : c.delivered? = c.pending.bind c.desk.outcomeOf? := Option.bind_assoc ..
    rw [hear?, hsame]
    cases hlistens : c.pending with
    | none => exact .rests _
    | some i =>
      simp only [Option.bind_some]
      cases hdelivered : c.desk.outcomeOf? i with
      | none => exact .rests _
      | some outcome => exact .hears i outcome hlistens hdelivered
  | worked task =>
    simp only [after, step?]
    cases hstep : c.desk.step? task with
    | none => exact .rests _
    | some desk => exact .works task desk hstep

namespace Goes

variable {started : Option Nat} {event : Option ChatEvent}

theorem post_eq (h : Goes c m c' started event) : c'.post = c.post := by
  cases h <;> rfl

theorem session_eq (h : Goes c m c' started event) : c'.session = c.session := by
  cases h <;> rfl

theorem printed (h : Goes c m c' started event) :
    c'.printed.reverse = c.printed.reverse ++ event.toList.flatMap ChatEvent.pieces := by
  cases h with
  | rests | closes | works => simp
  | starts => cases c.pending <;> simp [ChatEvent.pieces]
  | prompts | queues | hears => simp [print, ChatEvent.pieces]

/-- The turn that the chat listens to behind a move was listened to before, or it is new. -/
theorem ledger (h : Goes c m c' started event) :
    c.pending.toList ++ started.toList =
      event.toList.filterMap ChatEvent.turn? ++ c'.pending.toList := by
  cases h with
  | rests | closes | works | prompts => simp [print, ChatEvent.turn?]
  | starts => cases c.pending <;> simp [ChatEvent.turn?]
  | queues line desk submitted event waits => simp [waits, print, ChatEvent.turn?]
  | hears i outcome listens => simp [listens, print, ChatEvent.turn?]

/-- The desk of a chat makes one move, if any, and that is no cancellation. -/
theorem desk (h : Goes c m c' started event) : c'.desk = c.desk ∨
    ∃ move, c'.desk = c.desk.move move ∧ ∀ post session, move ≠ .cancel post session := by
  cases h with
  | rests | closes | prompts | hears => exact .inl rfl
  | starts line i desk asks submitted =>
    refine .inr ⟨.submit c.post c.root c.session (Text.trim line) c.attachments, ?_,
      fun _ _ h => by cases h⟩
    simp [Desk.move, submitted]
  | queues line desk submitted =>
    refine .inr ⟨.submit c.post c.root c.session (Text.trim line) c.attachments, ?_,
      fun _ _ h => by cases h⟩
    simp [Desk.move, submitted, print]
  | works task desk steps =>
    refine .inr ⟨.step task, ?_, fun _ _ h => by cases h⟩
    simp [Desk.move, steps]

theorem length_le (h : Goes c m c' started event) : c.desk.cards.length ≤ c'.desk.cards.length := by
  rcases h.desk with hdesk | ⟨move, hdesk, -⟩
  · exact Nat.le_of_eq (congrArg (·.cards.length) hdesk.symm)
  · exact hdesk ▸ c.desk.length_le_move move

/-- A turn that is started comes behind all that are there, and it is one of the session. -/
theorem started_eq (h : Goes c m c' (some i) event) : i = c.desk.cards.length ∧
    ∃ t, c'.desk.cards = c.desk.cards ++ [t] ∧ t.post = c.post ∧ t.setup.sessionId = c.session := by
  cases h with
  | starts line i desk asks submitted =>
    obtain ⟨rfl, -, hnew⟩ := Desk.submit_started submitted
    exact ⟨rfl, hnew⟩

/-- The turn that the chat listens to is the one from before, unless one is started. -/
theorem pending_cases (h : Goes c m c' started event) (hpending : c'.pending = some i) :
    c.pending = some i ∨ started = some i := by
  cases h with
  | starts => exact .inr hpending
  | hears => cases hpending
  | _ => exact .inl hpending

/-- A turn that was there before changes nothing but its stage. -/
theorem card (h : Goes c m c' started event) {t : TurnTask} (ht : c.desk.cards[i]? = some t) :
    ∃ stage, c'.desk.cards[i]? = some { t with stage } := by
  rcases h.desk with hdesk | ⟨move, hdesk, -⟩ <;> rw [hdesk]
  · exact ⟨t.stage, ht⟩
  · obtain ⟨stage, ht', -⟩ := Desk.goes_move ht move
    exact ⟨stage, ht'⟩

theorem delivered {outcome : TurnOutcome} (h : Goes c m c' started event)
    (hevent : event = some (.heard i outcome)) : c.desk.outcomeOf? i = some outcome := by
  cases h with
  | rests | closes | prompts | works => cases hevent
  | starts => cases hpending : c.pending <;> rw [hpending] at hevent <;> cases hevent
  | queues line desk submitted event waits =>
    rw [waits] at hevent
    cases hevent
  | hears j outcome listens delivered =>
    cases hevent
    exact delivered

/-- A turn is given up for a turn that starts. -/
theorem overtakes (h : Goes c m c' started event) (hevent : event = some (.overtaken i)) :
    ∃ line turn desk, m = .typed line ∧ c.asks line ∧ c.pending = some i ∧
      c.desk.submit c.post c.root c.session (Text.trim line) c.attachments =
        some (.started turn, desk) := by
  cases h with
  | rests | closes | prompts | works | hears => cases hevent
  | queues line desk submitted event waits =>
    rw [waits] at hevent
    cases hevent
  | starts line turn desk asks submitted =>
    refine ⟨line, turn, desk, rfl, asks, ?_, submitted⟩
    simpa using hevent

theorem outcomeOf? (h : Goes c m c' started event) {outcome : TurnOutcome}
    (houtcome : c.desk.outcomeOf? i = some outcome) : c'.desk.outcomeOf? i = some outcome := by
  rcases h.desk with hdesk | ⟨move, hdesk, -⟩ <;> rw [hdesk]
  · exact houtcome
  · exact Desk.outcomeOf?_run [move] houtcome

end Goes

/-! ## Many moves -/

theorem printed_run (c : Chat) (moves : List ChatMove) : (c.run moves).printed.reverse =
    c.printed.reverse ++ (c.log moves).flatMap ChatEvent.pieces := by
  induction moves generalizing c with
  | nil => simp [run, log]
  | cons m moves ih =>
    rw [log, List.flatMap_append, ← List.append_assoc, ← (c.goes_after m).printed]
    exact ih (c.after m)

/-- **The ledger of a chat**: every turn that is started is listened to, until its end is printed or
it is given up. -/
theorem ledger_run (c : Chat) (moves : List ChatMove) : c.pending.toList ++ c.startedIn moves =
    (c.log moves).filterMap ChatEvent.turn? ++ (c.run moves).pending.toList := by
  induction moves generalizing c with
  | nil => simp [run, log, startedIn]
  | cons m moves ih =>
    rw [startedIn, log, List.filterMap_append, ← List.append_assoc, (c.goes_after m).ledger,
      List.append_assoc, ih, List.append_assoc]
    rfl

/-- Turns are started one behind the other. -/
theorem startedIn_increasing (c : Chat) (moves : List ChatMove) :
    (c.startedIn moves).Pairwise (· < ·) ∧ ∀ i ∈ c.startedIn moves, c.desk.cards.length ≤ i := by
  induction moves generalizing c with
  | nil => exact ⟨.nil, fun i hi => absurd hi List.not_mem_nil⟩
  | cons m moves ih =>
    obtain ⟨hincreasing, hbehind⟩ := ih (c.after m)
    have hgoes := c.goes_after m
    rw [startedIn]
    cases hstarted : c.started? m with
    | none => exact ⟨hincreasing, fun i hi => Nat.le_trans hgoes.length_le (hbehind i hi)⟩
    | some j =>
      obtain ⟨rfl, t, hcards, -, -⟩ := (hstarted ▸ hgoes).started_eq
      have hlt : c.desk.cards.length < (c.after m).desk.cards.length := by simp [hcards]
      have hlater : ∀ i ∈ (c.after m).startedIn moves, c.desk.cards.length < i :=
        fun i hi => Nat.lt_of_lt_of_le hlt (hbehind i hi)
      refine ⟨List.pairwise_cons.mpr ⟨hlater, hincreasing⟩,
        List.forall_mem_cons.mpr ⟨Nat.le_refl _, ?_⟩⟩
      exact fun i hi => Nat.le_of_lt (hlater i hi)

theorem outcomeOf?_run (moves : List ChatMove) {outcome : TurnOutcome}
    (h : c.desk.outcomeOf? i = some outcome) : (c.run moves).desk.outcomeOf? i = some outcome := by
  induction moves generalizing c with
  | nil => exact h
  | cons m moves ih => exact ih ((c.goes_after m).outcomeOf? h)

/-- The outcome that is printed is the one that the turn delivered. -/
theorem delivered_of_mem_log (moves : List ChatMove) {outcome : TurnOutcome}
    (h : .heard i outcome ∈ c.log moves) : (c.run moves).desk.outcomeOf? i = some outcome := by
  induction moves generalizing c with
  | nil => cases h
  | cons m moves ih =>
    rcases List.mem_append.mp h with hnow | hlater
    · have hgoes := c.goes_after m
      exact outcomeOf?_run moves (hgoes.outcomeOf? (hgoes.delivered (Option.mem_toList.mp hnow)))
    · exact ih hlater

/-- A turn is given up by a line that overtakes it, and only by that. -/
theorem event?_eq_overtaken : c.event? m = some (.overtaken i) ↔
    ∃ line, m = .typed line ∧ c.Overtakes line i := by
  constructor
  · intro hevent
    obtain ⟨line, turn, desk, rfl, hasks, hpending, hsubmit⟩ := (c.goes_after m).overtakes hevent
    obtain ⟨-, hidle, -⟩ := Desk.submit_started hsubmit
    exact ⟨line, rfl, hasks, hpending, hidle⟩
  · rintro ⟨line, rfl, hasks, hpending, p, hp, hidle⟩
    obtain ⟨desk, hsubmit⟩ : ∃ desk,
        c.desk.submit c.post c.root c.session (Text.trim line) c.attachments =
          some (.started c.desk.cards.length, desk) := Desk.submit_of_idle hp hidle
    simp [event?, submission?, hasks, hsubmit, hpending]

theorem mem_log {e : ChatEvent} (moves : List ChatMove) : e ∈ c.log moves ↔
    ∃ n m, moves[n]? = some m ∧ (c.run (moves.take n)).event? m = some e := by
  induction moves generalizing c with
  | nil => simp [log]
  | cons m moves ih =>
    rw [log, List.mem_append, Option.mem_toList, ih]
    constructor
    · rintro (hnow | ⟨n, m', hm', hevent⟩)
      · exact ⟨0, m, rfl, hnow⟩
      · exact ⟨n + 1, m', hm', hevent⟩
    · rintro ⟨n, m', hm', hevent⟩
      cases n with
      | zero =>
        obtain rfl := Option.some.inj hm'
        exact .inl hevent
      | succ n => exact .inr ⟨n, m', hm', hevent⟩

/-! ## The turn that the chat listens to -/

/-- What is known of the turn that the chat listens to: it is one of its session, and it is not
revoked. -/
structure Follows (c : Chat) (revoked : Nat → Prop) : Prop where
  accounted : c.desk.Accounted
  enrolled : c.desk.Enrolled revoked
  pending : ∀ i, c.pending = some i → ¬ revoked i ∧
    ∃ t, c.desk.cards[i]? = some t ∧ t.post = c.post ∧ t.setup.sessionId = c.session

namespace Follows

variable {revoked : Nat → Prop}

theorem after (h : c.Follows revoked) (m : ChatMove) : (c.after m).Follows revoked := by
  have hgoes := c.goes_after m
  obtain ⟨haccounted, henrolled⟩ :
      (c.after m).desk.Accounted ∧ (c.after m).desk.Enrolled revoked := by
    rcases hgoes.desk with hdesk | ⟨move, hdesk, hmove⟩ <;> rw [hdesk]
    · exact ⟨h.accounted, h.enrolled⟩
    · refine ⟨Desk.accounted_move h.accounted move, ?_⟩
      have hsame : (fun i => revoked i ∨ c.desk.Revokes i move) = revoked := by
        funext i
        refine propext (or_iff_left ?_)
        rintro ⟨t, -, hm⟩
        exact hmove _ _ hm
      exact hsame ▸ h.enrolled.move h.accounted move
  refine ⟨haccounted, henrolled, fun i hpending => ?_⟩
  rw [hgoes.post_eq, hgoes.session_eq]
  rcases hgoes.pending_cases hpending with hsame | hstarted
  · obtain ⟨hnot, t, ht, hpost, hsession⟩ := h.pending i hsame
    obtain ⟨stage, ht'⟩ := hgoes.card ht
    exact ⟨hnot, _, ht', hpost, hsession⟩
  · obtain ⟨rfl, t, hcards, hpost, hsession⟩ := (hstarted ▸ hgoes).started_eq
    refine ⟨fun hrevoked => ?_, t, by simp [hcards], hpost, hsession⟩
    exact absurd (h.enrolled.there _ hrevoked) (Nat.lt_irrefl _)

theorem run (h : c.Follows revoked) (moves : List ChatMove) : (c.run moves).Follows revoked := by
  induction moves generalizing c with
  | nil => exact h
  | cons m moves ih => exact ih (h.after m)

/-- **A turn that is overtaken is over**: as long as it is at work, it is registered, and its
session is busy. -/
theorem finished (h : c.Follows revoked) (hovertakes : c.Overtakes line i) :
    ∃ t outcome, c.desk.turns[i]? = some t ∧ t.stage.result? = some outcome := by
  obtain ⟨-, hpending, p, hp, hidle⟩ := hovertakes
  obtain ⟨hnot, t, ht, hpost, hsession⟩ := h.pending i hpending
  have hresult : t.stage.result?.isSome := by
    cases hstage : t.stage with
    | working phase =>
      have hk : c.desk.trackers[t.post]? = some p.tracker := by simp [Desk.trackers, hpost, hp]
      have howns := (h.enrolled.registered i t phase _ ht hstage hk).mpr hnot
      obtain ⟨turn, hturn, -⟩ := Tracker.owns_iff.mp howns
      rw [hsession, Tracker.isSessionBusy_eq_false.mp hidle] at hturn
      cases hturn
    | unregistering | delivering | ended => rfl
  obtain ⟨outcome, houtcome⟩ := Option.isSome_iff_exists.mp hresult
  simp only [Desk.cards, List.getElem?_map, Option.map_eq_some_iff] at ht
  obtain ⟨t, ht, rfl⟩ := ht
  exact ⟨t, outcome, ht, houtcome⟩

end Follows

/-- **What becomes of the ends of turns.** The log of some moves tells what they print. Every turn
that they start is listened to, one behind the other, until its end is printed as it was delivered,
or until it is overtaken; and that happens only behind the end of its course. -/
structure Answers (c : Chat) (moves : List ChatMove) : Prop where
  printed : (c.run moves).printed.reverse =
    c.printed.reverse ++ (c.log moves).flatMap ChatEvent.pieces
  delivered : ∀ i outcome, .heard i outcome ∈ c.log moves →
    (c.run moves).desk.outcomeOf? i = some outcome
  increasing : (c.startedIn moves).Pairwise (· < ·)
  ledger : c.startedIn moves =
    (c.log moves).filterMap ChatEvent.turn? ++ (c.run moves).pending.toList
  finished : ∀ n line i, moves[n]? = some (.typed line) →
    (c.run (moves.take n)).Overtakes line i →
      ∃ t outcome, (c.run (moves.take n)).desk.turns[i]? = some t ∧
        t.stage.result? = some outcome

section

variable {roster : Roster} {sources : List Source} {store : WatchedStore} {bench : Workbench}
  {before : List DeskMove}

/-- The ends of the turns that a chat starts are accounted for, from any moment of any run of a desk
on. -/
theorem answers_run (moves : List ChatMove)
    (hd : c.desk = (Desk.openOn roster sources store bench).run before) (hp : c.pending = none) :
    c.Answers moves := by
  have henrolled := (Desk.enrolled_openOn roster sources store bench).run
    (Desk.accounted_openOn roster sources store bench) before
  have hfollows : c.Follows _ :=
    ⟨hd ▸ Desk.accounted_run _ _ _ _ before, hd ▸ henrolled,
      fun i hpending => nomatch hp.symm.trans hpending⟩
  have hledger := c.ledger_run moves
  rw [hp, Option.toList_none, List.nil_append] at hledger
  exact ⟨c.printed_run moves, fun i outcome => delivered_of_mem_log moves,
    (c.startedIn_increasing moves).1, hledger,
    fun n line i _ => (hfollows.run (moves.take n)).finished⟩

/-- **When an answer is lost.** Begin to chat at any moment of any run of a desk, and let lines be
typed, ends of turns be heard of and the desk make steps in any order. The ends of all turns that
the chat starts are printed, each once and in order, up to that of the turn it still listens to, if
and only if no line overtakes a turn. -/
theorem answers_heard_iff (moves : List ChatMove)
    (hd : c.desk = (Desk.openOn roster sources store bench).run before) (hp : c.pending = none) :
    c.Answers moves ∧
      ((c.log moves).filterMap ChatEvent.heard? ++ (c.run moves).pending.toList =
          c.startedIn moves ↔
        ∀ n line i, moves[n]? = some (.typed line) →
          ¬ (c.run (moves.take n)).Overtakes line i) := by
  have hanswers := answers_run moves hd hp
  refine ⟨hanswers, ?_⟩
  rw [hanswers.ledger, List.append_cancel_right_eq, ChatEvent.filterMap_heard?_eq_iff]
  constructor
  · intro hnone n line i hm hovertakes
    exact hnone i ((mem_log moves).mpr ⟨n, _, hm, event?_eq_overtaken.mpr ⟨line, rfl, hovertakes⟩⟩)
  · intro hnone i hmem
    obtain ⟨n, m, hm, hevent⟩ := (mem_log moves).mp hmem
    obtain ⟨line, rfl, hovertakes⟩ := event?_eq_overtaken.mp hevent
    exact hnone n line i hm hovertakes

end

/-- A chat with an agent that has no tools, and whose provider answers once. -/
def plainChat : Chat where
  desk := (Desk.openOn ⟨[Desk.briefAgent], [], 4⟩
    [.script (.ofTurns [.stream none [.content "hi", .complete ⟨"hi", [], .zero, .endTurn⟩] false])]
    (.ofStore (.memory .empty) []) ⟨default, default, default⟩).run [.forkToken none]
  root := 0
  post := 0
  agent := Desk.briefAgent
  session := "s"
  attachments := []
  pending := none
  closed := false
  printed := []

/-- The turn of the first line leaves its tracker, the second line is typed, and then the turn
delivers its outcome. -/
def lateLine : List ChatMove :=
  [.typed "one"] ++ List.replicate 14 (.worked (.turn 0)) ++ [.typed "two"] ++
    List.replicate 2 (.worked (.turn 0))

/-- An answer that is delivered and never printed. -/
theorem answers_heard_late_line :
    ¬ ((plainChat.log lateLine).filterMap ChatEvent.heard? ++
      (plainChat.run lateLine).pending.toList = plainChat.startedIn lateLine) ∧
    ∃ m, (plainChat.run lateLine).desk.outcomeOf? 0 = some (.ok m) ∧ m.content = "hi" := by
  refine ⟨fun hheard => ?_, _, rfl, rfl⟩
  refine (answers_heard_iff lateLine rfl rfl).2.mp hheard 15 "two" 0 rfl ⟨?_, rfl, _, rfl, ?_⟩
  · decide +kernel
  · decide +kernel

end Chat

end AgentDesk
