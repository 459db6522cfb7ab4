/-
# The times that are logged

A subscription that logs the executions of a tree keeps the start times by node. An execution that
fails leaves its start behind, and a retry executes the same nodes again, so what the stopwatch
holds when an execution begins tells nothing. What carries the times through a whole run is that
executions do not overlap: the last start before a stop is the one of the same execution, because
between the two no other execution is made and no other listener has the stopwatch.

So each record that an execution has ended belongs to one execution, of which the step has
returned, and the time in it is the time between the two calls of the subscription that this
execution makes. No execution has two records, one of which the step has failed has none, and one
that has returned has one. None of this asks what the steps do, what the stopwatch held at first,
or that the clock goes forward.
-/

import DeferredSpec.Proofs.Stopwatches

namespace DeferredSpec

/-! ### Executions that are logged -/

namespace Episode

open NodeCall

variable {episode : Episode} {watch level : Nat} {call : NodeCall} {bench later : Bench}
  {past future : List (NodeCall × Bench)}

theorem filter_opening (logs : episode.whole.Logs watch level) :
    episode.opening.filter (touches watch) =
      [.told episode.address episode.node (.timed watch level)] := by
  rw [opening, SpecTree.callsBefore, List.filter_append, List.filter_map]
  simp only [Function.comp_def, touches_told, logs.before]
  rfl

theorem filter_closing (logs : episode.whole.Logs watch level) (result : Value) :
    (episode.closing result).filter (touches watch) =
      [.shown episode.address episode.node result (.timed watch level)] := by
  rw [closing, SpecTree.callsAfter, List.filter_map]
  simp only [Function.comp_def, touches_shown, logs.after]
  rfl

/-- No stopwatch is stopped before the step has returned. -/
theorem not_stops_of_mem_opening (member : call ∈ episode.opening) : call.stops watch = false := by
  rcases List.mem_append.mp member with before | step
  · obtain ⟨listener, _, rfl⟩ := List.mem_map.mp before
    rfl
  · cases List.mem_singleton.mp step
    rfl

/-- The stopwatch of a subscription is stopped once, when the subscription is shown the result of
the step, and not at all if there is none. -/
theorem filter_stops_calls (logs : episode.whole.Logs watch level) :
    episode.calls.filter (stops watch) = episode.result?.toList.map fun result =>
      .shown episode.address episode.node result (.timed watch level) := by
  have opened : episode.opening.filter (stops watch) = [] :=
    List.filter_eq_nil_iff.mpr fun call member => by simp [not_stops_of_mem_opening member]
  cases known : episode.result? with
  | none =>
      rw [calls, known]
      split
      · rfl
      · exact opened
  | some result =>
      rw [calls_of_result? known, List.filter_append, opened, List.nil_append, filter_stops,
        filter_closing logs]
      simp [stops, AfterListener.watch?]

/-- If a call stops the stopwatch of a subscription, it shows the subscription the result of the
step. Before it, and nowhere else, there is one call that starts the stopwatch, and no call between
the two touches it. -/
theorem exists_told_of_stops (logs : episode.whole.Logs watch level) {front rest : List NodeCall}
    (split : episode.calls = front ++ call :: rest) (stopped : call.stops watch) :
    ∃ result earlier between, episode.result? = some result ∧
      call = .shown episode.address episode.node result (.timed watch level) ∧
      front = earlier ++ .told episode.address episode.node (.timed watch level) :: between ∧
      between.filter (touches watch) = [] := by
  have member : call ∈ episode.calls.filter (stops watch) := by
    rw [split]
    exact List.mem_filter.mpr ⟨List.mem_append_right front List.mem_cons_self, stopped⟩
  rw [filter_stops_calls logs] at member
  obtain ⟨result, listed, rfl⟩ := List.mem_map.mp member
  have known := Option.mem_toList.mp listed
  have used := congrArg (List.filter (touches watch)) split
  rw [calls_of_result? known, List.filter_append, filter_opening logs, filter_closing logs,
    List.filter_append, List.filter_cons, if_pos (touches_of_stops stopped)] at used
  have started : front.filter (touches watch) =
      [.told episode.address episode.node (.timed watch level)] := by
    generalize front.filter (touches watch) = first at used ⊢
    -- it comes first, and there is no third call that touches the stopwatch
    cases first with
    | nil => cases used
    | cons start others =>
        cases others with
        | nil => rw [(List.cons.inj used).1]
        | cons second others => simp at used
  obtain ⟨earlier, between, divided, _, _, quiet⟩ := List.filter_eq_cons_iff.mp started
  exact ⟨result, earlier, between, known, rfl, divided, quiet⟩

/-- Of all calls of an execution at most one stops the stopwatch. -/
theorem length_filter_stops_le (logs : episode.whole.Logs watch level) :
    (episode.trace.filter fun made => made.1.stops watch).length ≤ 1 := by
  have made : List.Sublist ((episode.trace.filter (stops watch ∘ Prod.fst)).map Prod.fst)
      (episode.calls.filter (stops watch)) := by
    rw [← List.filter_map]
    exact (map_fst_trace episode.calls episode.start).sublist.filter _
  have few : (episode.calls.filter (stops watch)).length ≤ 1 := by
    rw [filter_stops_calls logs, List.length_map]
    cases episode.result? with
    | none => exact Nat.zero_le 1
    | some result => exact le_rfl
  have counted := made.length_le.trans few
  rwa [List.length_map] at counted

end Episode

/-! ### Records -/

/-- A call that is made in the course of executions, with the number of the execution it belongs
to and the bench on which it is made. -/
structure Moment where
  turn : Nat
  episode : Episode
  call : NodeCall
  bench : Bench

namespace Moment

/-- The clock when the call is made. -/
def clock (moment : Moment) : Int := moment.bench.world.clock

/-- The call returns, and has added a record to the log. -/
def Writes (moment : Moment) (record : LogRecord) : Prop :=
  ∃ later, moment.call.make moment.bench = (.returned none, later) ∧
    later.world.records = moment.bench.world.records.push record

end Moment

/-- A call of the execution of the given number. -/
def Episode.moment (turn : Nat) (episode : Episode) (made : NodeCall × Bench) : Moment :=
  ⟨turn, episode, made.1, made.2⟩

/-- The calls of the execution of the given number. -/
def Episode.moments (turn : Nat) (episode : Episode) : List Moment :=
  episode.trace.map (episode.moment turn)

/-- All calls of executions made one after another, the first of which has the given number. -/
def momentsFrom : Nat → List Episode → List Moment
  | _, [] => []
  | turn, episode :: episodes => episode.moments turn ++ momentsFrom (turn + 1) episodes

/-- A subscription accounts for an execution, of which it was told at the start, with a record at
the stop. Between the two it is told of nothing, and nothing but this execution goes on. The
record has the time from the start to the stop. -/
structure Accounts (watch level : Nat) (start : Moment) (between : List Moment) (stop : Moment)
    (record : LogRecord) : Prop where
  turn : start.turn = stop.turn
  episode : start.episode = stop.episode
  within : ∀ other ∈ between, other.turn = stop.turn ∧ other.call.touches watch = false
  begun : start.call =
    .told stop.episode.address stop.episode.node (.timed watch level)
  announced : ∃ label,
    stop.episode.node.labelText start.bench.world = (.returned label, start.bench.world) ∧
      start.Writes (.executing level label)
  accounted : ∃ result label shown, stop.episode.result? = some result ∧
    stop.call = .shown stop.episode.address stop.episode.node result (.timed watch level) ∧
    stop.episode.node.labelText stop.bench.world = (.returned label, stop.bench.world) ∧
    Action.describe result stop.bench.world = (.returned shown, stop.bench.world) ∧
    record = .executed level label shown (stop.clock - start.clock)

namespace Episode

open NodeCall

variable {episode : Episode} {watch level turn : Nat} {stop : Moment} {front rest : List Moment}
  {record : LogRecord}

theorem touches_of_mem_between {between : List NodeCall} {bench : Bench} {other : Moment}
    (quiet : between.filter (touches watch) = [])
    (member : other ∈ (NodeCall.trace between bench).map (episode.moment turn)) :
    other.turn = turn ∧ other.call.touches watch = false := by
  obtain ⟨made, there, rfl⟩ := List.mem_map.mp member
  have listed := (map_fst_trace between bench).subset (List.mem_map_of_mem there)
  exact ⟨rfl, Bool.eq_false_iff.mpr (List.filter_eq_nil_iff.mp quiet _ listed)⟩

/-- Where an execution stops the stopwatch of a subscription, it has started it before, and the
record tells the time since then. -/
theorem exists_accounts (logs : episode.whole.Logs watch level)
    (kept : watch < episode.start.watches.size)
    (split : episode.moments turn = front ++ stop :: rest) (stopped : stop.call.stops watch)
    (writes : stop.Writes record) :
    ∃ earlier start between, front = earlier ++ start :: between ∧
      Accounts watch level start between stop record := by
  obtain ⟨past, onward, traced, rfl, isStop⟩ := List.map_eq_append_iff.mp split
  obtain ⟨⟨call, bench⟩, future, rfl, rfl, rfl⟩ := List.map_eq_cons_iff.mp isStop
  obtain ⟨before, behind, results, called, made, rfl⟩ := exists_of_trace traced
  obtain ⟨result, earlier, between, known, rfl, rfl, quiet⟩ :=
    exists_told_of_stops logs called stopped
  obtain ⟨_, told, _, started, _, first, begun, onward⟩ := exists_makeAll_returned_iff.mp ⟨_, made⟩
  obtain ⟨label, labelled, rfl, set⟩ := make_told_timed begun
  obtain ⟨later, shown, written⟩ := writes
  obtain ⟨final, text, relabelled, described, _, rfl⟩ := make_shown_timed shown
  have size := size_watches_makeAll earlier episode.start
  rw [first] at size
  have elapsed := stop_of_told (kept.trans_eq size.symm) begun quiet onward bench.world.clock
  refine ⟨(NodeCall.trace earlier episode.start).map (episode.moment turn),
    episode.moment turn (.told episode.address episode.node (.timed watch level), told),
    (NodeCall.trace between started).map (episode.moment turn), ?_, ?_⟩
  · rw [trace_append first, List.map_append, NodeCall.trace, begun, List.map_cons]
  · exact {
      turn := rfl
      episode := rfl
      within := fun other member => touches_of_mem_between quiet member
      begun := rfl
      announced := ⟨label, labelled, started, begun, by rw [set]; rfl⟩
      accounted := ⟨result, final, text, known, rfl, relabelled, described,
        (Array.push_inj_right.mp written).symm.trans
          (congrArg (LogRecord.executed level final text) elapsed)⟩ }

/-- What stands behind a stop stands behind the step. -/
theorem exists_closing_of_stops {calls others : List NodeCall} {call : NodeCall} {result : Value}
    (split : episode.calls = calls ++ call :: others) (known : episode.result? = some result)
    (stopped : call.stops watch) : ∃ earlier, episode.closing result = earlier ++ call :: others := by
  rw [calls_of_result? known] at split
  rcases split_append_cases split with ⟨opened, before⟩ | ⟨earlier, _, closed⟩
  · have member : call ∈ episode.opening := before ▸ List.mem_append_right _ List.mem_cons_self
    rw [not_stops_of_mem_opening member] at stopped
    cases stopped
  · exact ⟨earlier, closed⟩

/-- Where a subscription has found words for a node and its result, so do all that follow. -/
theorem exists_makeAll_behind {earlier others : List NodeCall} {result : Value}
    {bench later : Bench} (timed : ∀ listener ∈ episode.whole.listeners.after, listener.watch?.isSome)
    (closed : episode.closing result =
      earlier ++ .shown episode.address episode.node result (.timed watch level) :: others)
    (made : (NodeCall.shown episode.address episode.node result (.timed watch level)).make bench =
      (.returned none, later)) :
    ∃ final, makeAll others later = (.returned [], final) := by
  obtain ⟨_, behind, split, _, same⟩ := List.map_eq_append_iff.mp closed
  obtain ⟨own, further, rfl, _, rfl⟩ := List.map_eq_cons_iff.mp same
  obtain ⟨label, text, labelled, described, _⟩ := make_shown_timed made
  obtain ⟨after, here, relabelled, redescribed⟩ :=
    exists_make_shown_timed ⟨label, labelled⟩ ⟨text, described⟩ episode.address watch level
  cases (Prod.mk.inj (made.symm.trans here)).2
  have listed : ∀ listener ∈ further, listener.watch?.isSome := fun listener member =>
    timed listener (split ▸ List.mem_append_right _ (List.mem_cons_of_mem _ member))
  exact exists_makeAll_shown_timed listed relabelled redescribed episode.address

/-- If nothing but subscriptions is shown the result, an execution that a subscription accounts
for has returned. -/
theorem exists_returned_of_writes (logs : episode.whole.Logs watch level)
    (timed : ∀ listener ∈ episode.whole.listeners.after, listener.watch?.isSome)
    (member : stop ∈ episode.moments turn) (stopped : stop.call.stops watch)
    (writes : stop.Writes record) : ∃ result, episode.outcome = .returned result := by
  obtain ⟨⟨call, bench⟩, there, rfl⟩ := List.mem_map.mp member
  obtain ⟨past, future, traced⟩ := List.append_of_mem there
  obtain ⟨front, others, results, called, made, _⟩ := exists_of_trace traced
  obtain ⟨result, _, _, known, rfl, _, _⟩ := exists_told_of_stops logs called stopped
  obtain ⟨_, closed⟩ := exists_closing_of_stops called known stopped
  obtain ⟨later, shown, _⟩ := writes
  obtain ⟨final, behind⟩ := exists_makeAll_behind timed closed shown
  have completed : ∃ all, makeAll episode.calls episode.start = (.returned all, final) := by
    rw [called]
    exact exists_makeAll_returned_iff.mpr ⟨results, bench, none, later, [], made, shown, behind⟩
  obtain ⟨all, completed⟩ := completed
  rcases makeAll_calls (hooked_of_result? known) with ⟨found, _, _, _, returned⟩ | ⟨_, _, raised, _⟩
  · exact ⟨found, returned⟩
  · rw [completed] at raised
    cases raised

/-- A subscription accounts for every execution that has returned. -/
theorem exists_writes_of_returned (logs : episode.whole.Logs watch level) {result : Value}
    (returned : episode.outcome = .returned result) (turn : Nat) :
    ∃ stop ∈ episode.moments turn, stop.call.stops watch ∧ ∃ record, stop.Writes record := by
  have hooked := hooked_of_returned returned
  rcases makeAll_calls hooked with ⟨found, later, known, made, _⟩ | ⟨_, _, _, raised⟩
  · obtain ⟨earlier, others, closed, _, _⟩ :=
      List.filter_eq_cons_iff.mp (filter_closing logs found)
    rw [calls_of_result? known, closed, ← List.append_assoc] at made
    obtain ⟨before, bench, silence, after, _, first, here, _⟩ :=
      exists_makeAll_returned_iff.mp ⟨_, made⟩
    refine ⟨episode.moment turn
      (.shown episode.address episode.node found (.timed watch level), bench), ?_, ?_, ?_⟩
    · refine List.mem_map_of_mem ?_
      rw [trace, calls_of_result? known, closed, ← List.append_assoc, trace_append first]
      exact List.mem_append_right _ List.mem_cons_self
    · simp [moment, stops, AfterListener.watch?]
    · obtain ⟨label, text, _, _, rfl, rfl⟩ := make_shown_timed here
      exact ⟨_, _, here, rfl⟩
  · rw [returned] at raised
    cases raised

end Episode

/-! ### Runs -/

/-- An execution leaves as many stopwatches as it finds. -/
theorem Episode.size_watches_finish (episode : Episode) :
    episode.finish.watches.size = episode.start.watches.size := by
  rw [finish, SpecTree.execute_apply]
  show (episode.whole.carryOut episode.address episode.node episode.previous
    episode.start).2.watches.size = _
  cases hooked : episode.whole.lacks episode.address .hooks with
  | true =>
      rw [SpecTree.carryOut, SpecTree.require, hooked]
      rfl
  | false =>
      rcases episode.whole.carryOut_cases hooked episode.node episode.previous episode.start with
        ⟨result, later, carried, made⟩ | ⟨error, later, carried, stops⟩
      · have size := NodeCall.size_watches_makeAll (episode.whole.callsOf episode.address
          episode.node episode.previous result) episode.start
        rw [made] at size
        rw [carried]
        exact size
      · obtain ⟨_, front, call, middle, _, made, raised⟩ := stops []
        have before := NodeCall.size_watches_makeAll front episode.start
        have here := NodeCall.size_watches_make call middle
        rw [made] at before
        rw [raised] at here
        rw [carried]
        exact here.trans before

namespace Bench.Unfolds

variable {forest : Array SpecTree} {first last : Bench} {episodes : List Episode}
  {episode : Episode}

/-- Every execution is one of a node of a tree that is planted, and finds all stopwatches. -/
theorem planted_of_mem (unfolds : Unfolds forest first episodes last) (member : episode ∈ episodes) :
    forest[episode.place]? = some episode.whole ∧
      episode.start.watches.size = first.watches.size := by
  induction unfolds with
  | rest rests => cases member
  | @next before after here further rests planted onward ih =>
      rcases List.mem_cons.mp member with rfl | behind
      · exact ⟨planted, congrArg Array.size rests.watches⟩
      · obtain ⟨found, size⟩ := ih behind
        exact ⟨found, by rw [size, here.size_watches_finish, rests.watches]⟩

end Bench.Unfolds

theorem Episode.eq_of_mem_moments {turn : Nat} {episode : Episode} {moment : Moment}
    (member : moment ∈ episode.moments turn) : moment.turn = turn ∧ moment.episode = episode := by
  obtain ⟨made, _, rfl⟩ := List.mem_map.mp member
  exact ⟨rfl, rfl⟩

variable {turn number : Nat} {episodes : List Episode} {front rest : List Moment} {moment : Moment}

/-- A call that is made in the course of executions is made by one of them. Right before it stand
the earlier calls of this execution. -/
theorem exists_of_momentsFrom (split : momentsFrom turn episodes = front ++ moment :: rest) :
    ∃ number past earlier later, episodes[number]? = some moment.episode ∧
      moment.turn = turn + number ∧ front = past ++ earlier ∧
        moment.episode.moments moment.turn = earlier ++ moment :: later := by
  induction episodes generalizing turn front with
  | nil => simp [momentsFrom] at split
  | cons episode episodes ih =>
      rcases split_append_cases split with ⟨later, here⟩ | ⟨further, rfl, onward⟩
      · obtain ⟨rfl, rfl⟩ :=
          episode.eq_of_mem_moments (here ▸ List.mem_append_right _ List.mem_cons_self)
        exact ⟨0, [], front, later, rfl, rfl, rfl, here⟩
      · obtain ⟨number, past, earlier, later, found, counted, rfl, same⟩ := ih onward
        refine ⟨number + 1, episode.moments turn ++ past, earlier, later, found, ?_, ?_, same⟩
        · omega
        · rw [List.append_assoc]

theorem exists_of_mem_momentsFrom (member : moment ∈ momentsFrom turn episodes) :
    ∃ number, episodes[number]? = some moment.episode ∧ moment.turn = turn + number ∧
      moment ∈ moment.episode.moments moment.turn := by
  obtain ⟨front, rest, split⟩ := List.append_of_mem member
  obtain ⟨number, past, earlier, later, found, counted, _, here⟩ := exists_of_momentsFrom split
  exact ⟨number, found, counted, here ▸ List.mem_append_right _ List.mem_cons_self⟩

/-- The calls of an execution are among those of the run that it belongs to. -/
theorem mem_momentsFrom {episode : Episode} (found : episodes[number]? = some episode)
    (member : moment ∈ episode.moments (turn + number)) : moment ∈ momentsFrom turn episodes := by
  induction episodes generalizing turn number with
  | nil => cases found
  | cons early episodes ih =>
      cases number with
      | zero =>
          cases found
          exact List.mem_append_left _ member
      | succ number =>
          refine List.mem_append_right _ (ih found ?_)
          rwa [Nat.add_assoc, Nat.add_comm 1]

/-- Whether the call stops the stopwatch for a node of a tree. -/
def Moment.stops (place watch : Nat) (moment : Moment) : Bool :=
  moment.episode.place == place && moment.call.stops watch

theorem Moment.stops_iff {place watch : Nat} :
    moment.stops place watch ↔ moment.episode.place = place ∧ moment.call.stops watch := by
  rw [stops, Bool.and_eq_true_iff, beq_iff_eq]

/-- A subscription with a stopwatch keeps the time of the executions of a tree: it accounts for
each of them with one record at most. It accounts for those alone of which the step has returned,
and for all that have returned. -/
structure KeepsTime (place watch level : Nat) (episodes : List Episode) : Prop where
  /-- Before each record stands the start of the same execution. -/
  accounts : ∀ front stop rest record, momentsFrom 0 episodes = front ++ stop :: rest →
    stop.stops place watch → stop.Writes record →
      episodes[stop.turn]? = some stop.episode ∧
        ∃ earlier start between, front = earlier ++ start :: between ∧
          Accounts watch level start between stop record
  /-- No two records belong to one execution. -/
  once : ((momentsFrom 0 episodes).filter (Moment.stops place watch)).Pairwise fun early late =>
    early.turn < late.turn
  /-- Where the result is shown to subscriptions alone, an execution that has a record has
  returned. -/
  returned : ∀ stop ∈ momentsFrom 0 episodes, stop.stops place watch →
    (∃ record, stop.Writes record) →
      (∀ listener ∈ stop.episode.whole.listeners.after, listener.watch?.isSome) →
        ∃ result, stop.episode.outcome = .returned result
  /-- An execution that has returned has a record. -/
  completed : ∀ turn episode result, episodes[turn]? = some episode → episode.place = place →
    episode.outcome = .returned result →
      ∃ stop ∈ momentsFrom 0 episodes, stop.turn = turn ∧ stop.stops place watch ∧
        ∃ record, stop.Writes record

namespace Episode

variable {episode : Episode} {place watch level : Nat}

theorem length_filter_moments_le (logs : episode.place = place → episode.whole.Logs watch level)
    (turn : Nat) : ((episode.moments turn).filter (Moment.stops place watch)).length ≤ 1 := by
  rw [moments, List.filter_map, List.length_map]
  by_cases here : episode.place = place
  · have same : Moment.stops place watch ∘ episode.moment turn = fun made => made.1.stops watch := by
      funext made
      simp [Moment.stops, moment, here]
    rw [same]
    exact length_filter_stops_le (logs here)
  · have apart : Moment.stops place watch ∘ episode.moment turn = fun _ => false := by
      funext made
      simp [Moment.stops, moment, here]
    rw [apart, List.filter_false]
    exact Nat.zero_le 1

end Episode

/-- If the executions of a tree are logged with a stopwatch, each of them stops it once at most. -/
theorem pairwise_stops {place watch level : Nat} {episodes : List Episode}
    (logs : ∀ episode ∈ episodes, episode.place = place → episode.whole.Logs watch level)
    (turn : Nat) :
    ((momentsFrom turn episodes).filter (Moment.stops place watch)).Pairwise fun early late =>
      early.turn < late.turn := by
  induction episodes generalizing turn with
  | nil => exact .nil
  | cons episode episodes ih =>
      obtain ⟨here, others⟩ := List.forall_mem_cons.mp logs
      rw [momentsFrom, List.filter_append, List.pairwise_append]
      refine ⟨?_, ih others (turn + 1), ?_⟩
      · have few := Episode.length_filter_moments_le here turn
        revert few
        cases (episode.moments turn).filter (Moment.stops place watch) with
        | nil => exact fun _ => .nil
        | cons stop further =>
            intro few
            obtain rfl := List.eq_nil_of_length_eq_zero (Nat.le_zero.mp (Nat.le_of_succ_le_succ few))
            exact List.pairwise_singleton _ _
      · intro early first late second
        have number := (Episode.eq_of_mem_moments (List.mem_of_mem_filter first)).1
        obtain ⟨_, _, later, _⟩ := exists_of_mem_momentsFrom (List.mem_of_mem_filter second)
        omega

namespace Bench.Unfolds

variable {forest : Array SpecTree} {place watch level : Nat} {tree : SpecTree}
  {first last : Bench} {episodes : List Episode}

/-- A subscription with a stopwatch of its own keeps the time of whatever is executed. -/
theorem keepsTime (unfolds : Unfolds forest first episodes last)
    (planted : forest[place]? = some tree) (logs : tree.Logs watch level)
    (kept : watch < first.watches.size) : KeepsTime place watch level episodes := by
  have subscribed : ∀ episode ∈ episodes, episode.place = place →
      episode.whole.Logs watch level := by
    intro episode member here
    have found := (unfolds.planted_of_mem member).1
    rw [here, planted] at found
    exact Option.some.inj found ▸ logs
  constructor
  case accounts =>
    intro front stop rest record split stopped writes
    obtain ⟨number, past, earlier, later, found, counted, rfl, here⟩ := exists_of_momentsFrom split
    rw [Nat.zero_add] at counted
    have member := List.mem_of_getElem? found
    obtain ⟨atPlace, stops⟩ := Moment.stops_iff.mp stopped
    have size := (unfolds.planted_of_mem member).2
    obtain ⟨before, start, between, rfl, accounts⟩ :=
      Episode.exists_accounts (subscribed _ member atPlace)
        (kept.trans_eq size.symm) here stops writes
    exact ⟨counted ▸ found, past ++ before, start, between, (List.append_assoc _ _ _).symm, accounts⟩
  case once => exact pairwise_stops subscribed 0
  case returned =>
    intro stop member stopped writes timed
    obtain ⟨record, written⟩ := writes
    obtain ⟨number, found, _, here⟩ := exists_of_mem_momentsFrom member
    obtain ⟨atPlace, stops⟩ := Moment.stops_iff.mp stopped
    exact Episode.exists_returned_of_writes
      (subscribed _ (List.mem_of_getElem? found) atPlace) timed here stops written
  case completed =>
    intro turn episode result found here returned
    obtain ⟨stop, member, stops, written⟩ := Episode.exists_writes_of_returned
      (subscribed _ (List.mem_of_getElem? found) here) returned turn
    obtain ⟨number, same⟩ := Episode.eq_of_mem_moments member
    refine ⟨stop, mem_momentsFrom found (by rwa [Nat.zero_add]), number, ?_, written⟩
    exact Moment.stops_iff.mpr ⟨same ▸ here, stops⟩

end Bench.Unfolds

/-! ### Errands -/

namespace Errand

variable {forest : Array SpecTree} {place watch level : Nat} {tree : SpecTree}

/-- Where the executions of a tree are logged with a stopwatch of their own, each record that an
execution has ended belongs to one execution whatever is done with the trees: its step has
returned, its start was logged by the same subscription before, in between nothing else was
executed, and the time in the record is that of the clock at the stop less that at the start. An
execution has one record at most, and one that has returned has one.

A listener of other code that is shown the result later can still make an execution fail that has
its record. Where the result is shown to such subscriptions alone, an execution with a record has
returned. -/
theorem performAll_keepsTime (planted : forest[place]? = some tree) (logs : tree.Logs watch level)
    {rig : Rig Runner} (kept : watch < rig.bench.watches.size) (errands : List Errand) :
    let later := (performAll forest errands rig).2
    (∃ episodes, Bench.Unfolds forest rig.bench episodes later.bench) ∧
      ∀ episodes, Bench.Unfolds forest rig.bench episodes later.bench →
        later.bench.executions = rig.bench.executions ++ episodes.map Episode.happening ∧
          KeepsTime place watch level episodes := by
  intro later
  refine ⟨unfolds_performAll errands rig, fun episodes unfolds => ⟨unfolds.executions_eq, ?_⟩⟩
  exact unfolds.keepsTime planted logs kept

/-- A node of which the step takes a quarter of a second, and fails before a given time. -/
def lastingNode (word : String) (variant : Variant) (opening : Int) : ActionNode where
  description := .text word
  step := fun _ _ => do
    Effect.modify (World.tick 250)
    let now ← Effect.read World.clock
    if now < opening then
      Action.raiseNew (.expectationFailed (.integer opening) (.integer now) (.text "reach")) []
    else pure (.integer now)
  variant := variant

/-- A tree of which the last step fails at first, logged at two levels. -/
def climbingTree : SpecTree :=
  let tree : SpecTree :=
    { root :=
        .node (lastingNode "climb" .group 0)
          [.node (lastingNode shouldEventually .leafCase 0)
            [.single (lastingNode "arrive" .chainStep 1200)]] }
  (tree.logExecution 0 debugLevel).logExecution 1 infoLevel

/-- The first attempt fails behind its third start, the second one passes. The record of the last
step has the time that the step took when it passed. -/
theorem performAll_keepsTime_of_climbing :
    let forest := #[climbingTree]
    let rig : Rig Runner :=
      { bench := { watches := #[default, default] }, runners := #[.suite (Suite.empty "")] }
    let errands := [.realize ⟨⟨0⟩, ⟨3, .immediate, false⟩⟩ ⟨0, []⟩, .run ⟨0⟩]
    let later := (performAll forest errands rig).2
    (forest[0]? = some climbingTree ∧ climbingTree.Logs 0 debugLevel ∧
        0 < rig.bench.watches.size) ∧
      (later.bench.executions.map fun
        | .executed _ _ outcome => outcome.isReturned
        | .delayed => false) = [true, true, false, true, true, true] ∧
      .executed debugLevel "arrive" "int(1500)" 250 ∈ later.bench.world.records ∧
      (∃ episodes, Bench.Unfolds forest rig.bench episodes later.bench) ∧
        ∀ episodes, Bench.Unfolds forest rig.bench episodes later.bench →
          later.bench.executions = rig.bench.executions ++ episodes.map Episode.happening ∧
            KeepsTime 0 0 debugLevel episodes := by
  intro forest rig errands later
  have planted : forest[0]? = some climbingTree := rfl
  have logs : climbingTree.Logs 0 debugLevel := ⟨rfl, rfl⟩
  have kept : 0 < rig.bench.watches.size := by decide
  exact ⟨⟨planted, logs, kept⟩, by decide +kernel, by decide +kernel,
    performAll_keepsTime planted logs kept errands⟩

end Errand

end DeferredSpec
