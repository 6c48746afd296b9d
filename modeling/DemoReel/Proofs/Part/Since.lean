import DemoReel.Part.Registry
import DemoReel.Proofs.Playback.Standard

/-!
# Since when parts run

When the running parts were started, and which frames parts are given to draw. Main statements: no
request to a registry starts a part later than now or before time zero (`StartedBy.on`), and a
drawing gives every running part one frame, which tells it the time since its own start
(`pages_render`).
-/

namespace DemoReel

open Number

variable {π σ : Type}

namespace Registry

/-- No running part was started before time zero or after `now`. -/
def StartedBy (now : Int) (r : Registry π) : Prop :=
  r.parts.All fun e => ∀ since, e.status = .running since → 0 ≤ since ∧ since ≤ now

namespace StartedBy

variable {now later time : Int} {r : Registry π}

theorem mono (h : r.StartedBy now) (hle : now ≤ later) : r.StartedBy later :=
  fun x hx since hsince =>
    ⟨(h x hx since hsince).1, Int.le_trans (h x hx since hsince).2 hle⟩

theorem stopAll (r : Registry π) (now : Int) : r.stopAll.StartedBy now := by
  intro x hx since hsince
  obtain ⟨y, -, rfl⟩ := List.mem_map.1 hx
  simp at hsince

theorem of_runningNames (h : r.runningNames = []) (now : Int) : r.StartedBy now := by
  intro x hx since hsince
  have hidle : x.2.status.isRunning = false := by
    simpa using List.filter_eq_nil_iff.1 (List.map_eq_nil_iff.1 h) x hx
  rw [hsince] at hidle
  simp [PartStatus.isRunning] at hidle

/-- A request that is made at a time starts no part later than then. A part that moves to another
name has been running as long as before. -/
theorem on (h : r.StartedBy now) (hpos : 0 ≤ time) (htime : time ≤ now) {request : Request}
    {u : Update π} (hu : request.on time r = .ok u) : u.registry.StartedBy now := by
  cases request with
  | start name =>
    simp only [Request.on, start] at hu
    split at hu
    · simp at hu
    · cases hu
      refine h.modify name fun e _ since hsince => ?_
      cases hsince
      exact ⟨hpos, htime⟩
  | stop name =>
    simp only [Request.on, stop] at hu
    split at hu
    · simp at hu
    · split at hu
      · cases hu
        refine h.modify name fun e _ since hsince => ?_
        simp at hsince
      · simp at hu
  | rename name new =>
    simp only [Request.on, rename] at hu
    split at hu
    · simp at hu
    · split at hu
      · simp at hu
      · next e he =>
        have hmoved : Registry.StartedBy now ⟨(r.parts.erase name).insert new e⟩ :=
          NameMap.All.insert (h.erase name) new (h.get? he)
        split at hu
        · cases hu
          exact h
        · split at hu <;> cases hu <;> exact hmoved
  | configure name f =>
    simp only [Request.on, configure] at hu
    split at hu
    · simp at hu
    · cases hu
      exact h.modify name fun e he => he

end StartedBy

end Registry

/-! ## Diaries -/

/-- A part that keeps the frames it is given to draw. -/
structure Diary (π : Type) where
  part : π
  frames : List Frame := []

instance [Part π σ] : Part (Diary π) σ where
  render d frame w :=
    let (result, part, w) := Part.render d.part frame w
    (result, ⟨part, d.frames ++ [frame]⟩, w)

/-- The frames that a part is given when the parts are drawn at a time. -/
def PartStatus.handed (time : Int) : PartStatus → List Frame
  | .idle => []
  | .running since => [⟨time, wrapInt64 (time - since)⟩]

namespace Registry

/-- The parts, each with its status and the frames it has been given. -/
def pages (r : Registry (Diary π)) : NameMap (PartStatus × List Frame) :=
  r.parts.map fun e => (e.status, e.part.frames)

/-- The pages after the parts have been drawn at a time. -/
def nextPages (r : Registry (Diary π)) (time : Int) : NameMap (PartStatus × List Frame) :=
  r.parts.map fun e => (e.status, e.part.frames ++ e.status.handed time)

variable [Graphics σ] [Part π σ]

theorem pages_renderEntry (time : Int) (name : String) (e : Enrolled (Diary π)) (w : World σ) :
    ((renderEntry time name e w).1.status, (renderEntry time name e w).1.part.frames) =
      (e.status, e.part.frames ++ e.status.handed time) := by
  cases he : e.status with
  | idle => simp [renderEntry, he, PartStatus.handed]
  | running since => simp [renderEntry, he, PartStatus.handed, Part.render]

/-- Drawing gives every running part one frame, and leaves the status of all parts alone. -/
theorem pages_render (r : Registry (Diary π)) (time : Int) (w : World σ) :
    (r.render time w).2.1.pages = r.nextPages time := by
  refine NameMap.ext ?_
  show (NameMap.traverseList (renderEntry time) r.parts.entries w).1.map
      (fun x => (x.1, (x.2.status, x.2.part.frames))) =
    r.parts.entries.map fun x => (x.1, (x.2.status, x.2.part.frames ++ x.2.status.handed time))
  induction r.parts.entries generalizing w with
  | nil => rfl
  | cons x rest ih =>
    simp only [NameMap.traverseList, List.map_cons, ih]
    rw [pages_renderEntry]

theorem StartedBy.render {now : Int} {r : Registry (Diary π)} (h : r.StartedBy now) (time : Int)
    (w : World σ) : (r.render time w).2.1.StartedBy now := by
  let startedBy (page : PartStatus × List Frame) : Prop :=
    ∀ since, page.1 = .running since → 0 ≤ since ∧ since ≤ now
  have hpages : (r.nextPages time).All startedBy := NameMap.all_map.2 h
  rw [← pages_render r time w] at hpages
  exact NameMap.all_map.1 hpages

end Registry

end DemoReel
