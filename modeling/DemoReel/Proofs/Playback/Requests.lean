import DemoReel.Playback.Player
import DemoReel.Proofs.Clock.Stopwatch

/-!
# Requests of the viewer

What a request can change. Main statements: it moves the clock by an amount of its own
(`Scheduler.elapsed_obey`), and beside the clock it changes at most the parts, the effects and the
place in the script (`Playback.heeded_heed`).
-/

namespace DemoReel

open Number.Wrapping

variable {π σ : Type}

namespace Control

/-- What a request of the viewer makes of the clock, if its source reads `reading`. -/
def onClock (reading : Int64) (clock : Clock Int64) : Control → Clock Int64
  | .togglePause => clock.toggle reading
  | .seekForward ms => clock.seekForward ms
  | .seekBack ms => clock.seekBack ms
  | .quit => clock

/-- How far a request moves the clock. -/
def shift : Control → Int64
  | .seekForward ms => ms
  | .seekBack ms => -ms
  | .togglePause | .quit => 0

theorem elapsed_onClock (reading : Int64) (clock : Clock Int64) (c : Control) :
    (c.onClock reading clock).elapsed reading = clock.elapsed reading + c.shift := by
  cases c with
  | togglePause => exact (clock.elapsed_toggle reading).trans (add_zero _).symm
  | seekForward ms => exact clock.elapsed_seekForward reading ms
  | seekBack ms => exact (clock.elapsed_seekBack reading ms).trans (sub_eq_add_neg _ ms)
  | quit => exact (add_zero _).symm

end Control

namespace Scheduler

theorem clock_restart (reading : Int64) (s : Scheduler π σ) (w : World σ) :
    (s.restart reading w).2.1.clock = s.clock := by
  unfold restart
  split
  · rfl
  · split <;> rfl

theorem clock_obey (reading : Int64) (c : Control) (s : Scheduler π σ) (w : World σ) :
    (s.obey reading c w).2.1.clock = c.onClock reading s.clock := by
  cases c with
  | togglePause => rfl
  | seekForward ms => rfl
  | seekBack ms => exact clock_restart reading { s with clock := s.clock.seekBack ms } w
  | quit => rfl

/-- Whether or not the script can be opened again, the clock moves as asked. -/
theorem elapsed_obey (reading : Int64) (c : Control) (s : Scheduler π σ) (w : World σ) :
    (s.obey reading c w).2.1.clock.elapsed reading = s.clock.elapsed reading + c.shift := by
  rw [clock_obey, Control.elapsed_onClock]

theorem exists_attend (reading : Int64) (c : Control) (s : Scheduler π σ) (w : World σ) :
    ∃ event, s.attend reading c w =
      ((s.obey reading c w).2.1, (s.obey reading c w).2.2.note event) := by
  unfold attend
  rcases s.obey reading c w with ⟨result, s, w⟩
  cases result with
  | ok _ => exact ⟨_, rfl⟩
  | error e => exact ⟨_, rfl⟩

end Scheduler

namespace Playback

theorem clock_attend (request : Int64 × Control) (p : Playback π σ) :
    (p.attend request).scheduler.clock = request.2.onClock request.1 p.scheduler.clock := by
  obtain ⟨reading, c⟩ := request
  obtain ⟨event, hattend⟩ := p.scheduler.exists_attend reading c p.world
  cases c with
  | quit => rfl
  | _ =>
    simp only [attend, hattend]
    exact p.scheduler.clock_obey reading _ p.world

/-- What the viewer leaves as it is, whatever is asked for. -/
structure Heeded (p q : Playback π σ) : Prop where
  player : q.player = p.player
  table : q.scheduler.table = p.scheduler.table
  source : q.scheduler.source = p.scheduler.source
  assets : q.scheduler.assets = p.scheduler.assets
  world : ∃ journal, q.world = p.world.withJournal journal

theorem Heeded.trans {p q r : Playback π σ} (h : Heeded p q) (h' : Heeded q r) : Heeded p r := by
  obtain ⟨journal, hworld⟩ := h.world
  obtain ⟨journal', hworld'⟩ := h'.world
  refine ⟨h'.player.trans h.player, h'.table.trans h.table, h'.source.trans h.source,
    h'.assets.trans h.assets, journal', ?_⟩
  rw [hworld', hworld]
  rfl

theorem heeded_attend (request : Int64 × Control) (p : Playback π σ) :
    Heeded p (p.attend request) := by
  obtain ⟨reading, c⟩ := request
  cases c with
  | togglePause => exact ⟨rfl, rfl, rfl, rfl, _, rfl⟩
  | seekForward ms => exact ⟨rfl, rfl, rfl, rfl, _, rfl⟩
  | quit => exact ⟨rfl, rfl, rfl, rfl, p.world.journal, rfl⟩
  | seekBack ms =>
    obtain ⟨event, hattend⟩ := p.scheduler.exists_attend reading (.seekBack ms) p.world
    simp only [attend, hattend, Scheduler.obey, Scheduler.seekBack, Scheduler.restart]
    split
    · exact ⟨rfl, rfl, rfl, rfl, _, rfl⟩
    · split <;> exact ⟨rfl, rfl, rfl, rfl, _, rfl⟩

theorem heeded_heed (c : Cue) (p : Playback π σ) : Heeded p (p.heed c) := by
  unfold heed
  induction c.requests generalizing p with
  | nil => exact ⟨rfl, rfl, rfl, rfl, p.world.journal, rfl⟩
  | cons request requests ih => exact (p.heeded_attend request).trans (ih _)

@[simp] theorem player_heed (c : Cue) (p : Playback π σ) : (p.heed c).player = p.player :=
  (p.heeded_heed c).player

@[simp] theorem player_startClock (c : Cue) (p : Playback π σ) :
    (p.startClock c).player = p.player := player_heed c p

@[simp] theorem player_stopClock (c : Cue) (p : Playback π σ) :
    (p.stopClock c).player = p.player := player_heed c p

end Playback

end DemoReel
