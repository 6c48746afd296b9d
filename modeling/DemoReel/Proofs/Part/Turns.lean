import DemoReel.Part.Registry
import DemoReel.Proofs.Graphics.Record

/-!
# Parts take turns

What drawing the parts of a registry asks of the backend, part by part. Main statements: the record
grows by the turns of the running parts and by nothing else (`entries_traverse`), every part finds
its own target bound, and in the end the framebuffer is bound again, whatever the parts have done in
between (`bound_traverse`).
-/

namespace DemoReel

open Number

variable {π σ μ : Type}

/-- Parts can only add to the record, and `Q` holds of what they add. -/
def Part.Adds (π σ : Type) {μ : Type} [Part π (Recorder μ σ)] (Q : Call ⊕ μ → Prop) : Prop :=
  ∀ (p : π) (frame : Frame) (w : World (Recorder μ σ)), w.Grows Q (Part.render p frame w).2.2

/-- A part that makes the same calls in every frame, and then fails if it has a reason to. -/
structure Routine where
  calls : List Call
  fault : Option String := none

instance [Graphics σ] : Part Routine σ where
  render r _ w := (r.fault.elim (.ok ()) .error, r, r.calls.foldl World.after w)

theorem Routine.adds (σ : Type) [Graphics σ] :
    Part.Adds Routine σ fun x : Call ⊕ μ => x.isLeft := by
  intro r frame w
  show w.Grows _ (r.calls.foldl World.after w)
  induction r.calls generalizing w with
  | nil => exact .refl w
  | cons c calls ih =>
    have hnow : w.Grows (fun x : Call ⊕ μ => x.isLeft) (w.after c) := .after w rfl
    exact hnow.trans (ih (w.after c))

/-- What is asked of the backend before a part draws. -/
def PartSettings.setup (s : PartSettings) : List Call :=
  (if s.target = .framebuffer then [] else [.bind s.target]) ++
    if s.clear then [.clear, .clearDepth] else []

theorem PartSettings.isCapture_setup {s : PartSettings} {c : Call} (h : c ∈ s.setup) :
    c.isCapture = false := by
  rcases List.mem_append.1 h with h | h
  · split at h
    · simp at h
    · rw [List.mem_singleton.1 h]
      rfl
  · split at h
    · simp only [List.mem_cons, List.not_mem_nil, or_false] at h
      rcases h with rfl | rfl <;> rfl
    · simp at h

/-- The turn of a running part. -/
structure Turn (π σ : Type) where
  name : String
  enrolled : Enrolled π
  frame : Frame
  /-- The world as the part finds it. -/
  entered : World σ

namespace Turn

/-- The turn of a part that has been running since `since`, when it comes in the world `w`. -/
def ofRunning [Graphics σ] (time : Int) (name : String) (e : Enrolled π) (since : Int)
    (w : World σ) : Turn π σ :=
  ⟨name, e, ⟨time, wrapInt64 (time - since)⟩, Registry.prepare e.settings w⟩

variable [Part π (Recorder μ σ)]

/-- What the part itself puts on record. -/
def own (t : Turn π (Recorder μ σ)) : List (Call ⊕ μ) :=
  (Part.render t.enrolled.part t.frame t.entered).2.2.entries.drop t.entered.entries.length

/-- What the turn puts on record. -/
def entries (t : Turn π (Recorder μ σ)) : List (Call ⊕ μ) :=
  t.enrolled.settings.setup.map .inl ++ t.own ++ [.inl (.bind .framebuffer), .inl .reset]

variable {Q : Call ⊕ μ → Prop}

theorem entries_render (h : Part.Adds π σ Q) (t : Turn π (Recorder μ σ)) :
    (Part.render t.enrolled.part t.frame t.entered).2.2.entries = t.entered.entries ++ t.own := by
  obtain ⟨new, hentries, -⟩ := h t.enrolled.part t.frame t.entered
  rw [own, hentries, List.drop_left]

theorem own_of_adds (h : Part.Adds π σ Q) (t : Turn π (Recorder μ σ)) : ∀ x ∈ t.own, Q x := by
  obtain ⟨new, hentries, hnew⟩ := h t.enrolled.part t.frame t.entered
  rw [own, hentries, List.drop_left]
  exact hnew

/-- A turn puts on record what its part does, and no capture besides. -/
theorem mem_entries (h : Part.Adds π σ Q) {t : Turn π (Recorder μ σ)} {x : Call ⊕ μ}
    (hx : x ∈ t.entries) : Q x ∨ ∃ c, x = .inl c ∧ c.isCapture = false := by
  rcases List.mem_append.1 hx with hx | hx
  · rcases List.mem_append.1 hx with hx | hx
    · obtain ⟨c, hc, rfl⟩ := List.mem_map.1 hx
      exact .inr ⟨c, rfl, PartSettings.isCapture_setup hc⟩
    · exact .inl (t.own_of_adds h x hx)
  · simp only [List.mem_cons, List.not_mem_nil, or_false] at hx
    rcases hx with rfl | rfl
    · exact .inr ⟨_, rfl, rfl⟩
    · exact .inr ⟨_, rfl, rfl⟩

end Turn

namespace Registry

/-! ## Before and after a part -/

section

variable [Graphics σ]

theorem entries_prepare (s : PartSettings) (w : World (Recorder μ σ)) :
    (prepare s w).entries = w.entries ++ s.setup.map .inl := by
  unfold prepare PartSettings.setup
  by_cases ht : s.target = .framebuffer <;> by_cases hc : s.clear = true <;> simp [ht, hc]

theorem entries_restore (w : World (Recorder μ σ)) :
    (restore w).entries = w.entries ++ [.inl (.bind .framebuffer), .inl .reset] := by
  simp [restore]

variable {bound : σ → Target}

theorem bound_prepare (h : TellsTarget bound) (s : PartSettings) {w : World σ}
    (hw : bound w.gfx = .framebuffer) : bound (prepare s w).gfx = s.target := by
  have htarget : bound (if s.target = .framebuffer then w else w.after (.bind s.target)).gfx =
      s.target := by
    split
    · next heq => rw [hw, heq]
    · exact h.bind w s.target
  unfold prepare
  dsimp only
  split
  · rw [h.clearDepth, h.clear, htarget]
  · exact htarget

theorem bound_restore (h : TellsTarget bound) (w : World σ) :
    bound (restore w).gfx = .framebuffer := by
  rcases h.reset (w.after (.bind .framebuffer)) with heq | heq
  · exact heq.trans (h.bind w .framebuffer)
  · exact heq

end

/-! ## The turns of a list of parts -/

section

variable [Graphics σ] [Part π σ]

/-- The turns of the running parts of a list. Each comes in the world that the parts before it have
left. -/
def turnsIn (time : Int) : List (String × Enrolled π) → World σ → List (Turn π σ)
  | [], _ => []
  | (name, e) :: rest, w =>
    let later := turnsIn time rest (renderEntry time name e w).2
    match e.status with
    | .idle => later
    | .running since => .ofRunning time name e since w :: later

/-- The turns of the running parts. -/
def turns (r : Registry π) (time : Int) (w : World σ) : List (Turn π σ) :=
  turnsIn time r.parts.entries w

theorem renderEntry_idle {e : Enrolled π} (h : e.status = .idle) (name : String) (w : World σ) :
    renderEntry time name e w = (e, w) := by
  simp [renderEntry, h]

/-- A turn ends on the framebuffer, whatever the part has done. -/
theorem exists_restore_of_running {e : Enrolled π} {since : Int} (h : e.status = .running since)
    (time : Int) (name : String) (w : World σ) :
    let frame : Frame := ⟨time, wrapInt64 (time - since)⟩
    ∃ events, (renderEntry time name e w).2 =
      restore ((Part.render e.part frame (prepare e.settings w)).2.2.noteAll events) := by
  simp only [renderEntry, h]
  split
  · exact ⟨[], rfl⟩
  · exact ⟨[_], rfl⟩

/-- Every running part has one turn, in the order of the list. -/
theorem entries_turnsIn (time : Int) (l : List (String × Enrolled π)) (w : World σ) :
    (turnsIn time l w).map (fun t => (t.name, t.enrolled)) =
      l.filter (·.2.status.isRunning) := by
  induction l generalizing w with
  | nil => rfl
  | cons x rest ih =>
    obtain ⟨name, e⟩ := x
    cases he : e.status with
    | idle => simp [turnsIn, he, ih, PartStatus.isRunning]
    | running since => simp [turnsIn, he, ih, PartStatus.isRunning, Turn.ofRunning]

/-- A part is told the time of the frame and how long it has been running. -/
theorem frame_of_mem_turnsIn {time : Int} {l : List (String × Enrolled π)} {w : World σ}
    {t : Turn π σ} (ht : t ∈ turnsIn time l w) :
    ∃ since, t.enrolled.status = .running since ∧ t.frame = ⟨time, wrapInt64 (time - since)⟩ := by
  induction l generalizing w with
  | nil => simp [turnsIn] at ht
  | cons x rest ih =>
    obtain ⟨name, e⟩ := x
    cases he : e.status with
    | idle =>
      simp only [turnsIn, he] at ht
      exact ih ht
    | running since =>
      simp only [turnsIn, he, List.mem_cons] at ht
      rcases ht with rfl | ht
      · exact ⟨since, he, rfl⟩
      · exact ih ht

variable {bound : σ → Target}

theorem bound_traverse (h : TellsTarget bound) (time : Int) (l : List (String × Enrolled π))
    {w : World σ} (hw : bound w.gfx = .framebuffer) :
    bound (NameMap.traverseList (renderEntry time) l w).2.gfx = .framebuffer ∧
      ∀ t ∈ turnsIn time l w, bound t.entered.gfx = t.enrolled.settings.target := by
  -- A part without a target of its own relies on the framebuffer being bound between two turns.
  induction l generalizing w with
  | nil => exact ⟨hw, by simp [turnsIn]⟩
  | cons x rest ih =>
    obtain ⟨name, e⟩ := x
    cases he : e.status with
    | idle =>
      obtain ⟨hlast, hturns⟩ := ih hw
      simp only [NameMap.traverseList, turnsIn, he, renderEntry_idle he]
      exact ⟨hlast, hturns⟩
    | running since =>
      have hnext : bound (renderEntry time name e w).2.gfx = .framebuffer := by
        obtain ⟨events, heq⟩ := exists_restore_of_running he time name w
        rw [heq]
        exact bound_restore h _
      obtain ⟨hlast, hturns⟩ := ih hnext
      simp only [NameMap.traverseList, turnsIn, he]
      exact ⟨hlast, List.forall_mem_cons.2 ⟨bound_prepare h e.settings hw, hturns⟩⟩

end

/-! ## What the turns put on record -/

section

variable [Graphics σ] [Part π (Recorder μ σ)] {Q : Call ⊕ μ → Prop}

theorem entries_renderEntry (h : Part.Adds π σ Q) {e : Enrolled π} {since : Int}
    (he : e.status = .running since) (time : Int) (name : String) (w : World (Recorder μ σ)) :
    (renderEntry time name e w).2.entries =
      w.entries ++ (Turn.ofRunning time name e since w).entries := by
  obtain ⟨events, heq⟩ := exists_restore_of_running he time name w
  have hown := (Turn.ofRunning time name e since w).entries_render h
  simp only [Turn.ofRunning] at hown
  rw [heq, entries_restore, World.entries_noteAll, hown, entries_prepare]
  simp [Turn.entries, Turn.ofRunning]

theorem entries_traverse (h : Part.Adds π σ Q) (time : Int) (l : List (String × Enrolled π))
    (w : World (Recorder μ σ)) :
    (NameMap.traverseList (renderEntry time) l w).2.entries =
      w.entries ++ (turnsIn time l w).flatMap Turn.entries := by
  induction l generalizing w with
  | nil => simp [NameMap.traverseList, turnsIn]
  | cons x rest ih =>
    obtain ⟨name, e⟩ := x
    cases he : e.status with
    | idle =>
      simp only [NameMap.traverseList, turnsIn, he, renderEntry_idle he]
      exact ih w
    | running since =>
      simp only [NameMap.traverseList, turnsIn, he, List.flatMap_cons]
      rw [ih, entries_renderEntry h he, List.append_assoc]

/-- A part begins right after its own setup, which comes right after the turns before it. -/
theorem entries_entered (h : Part.Adds π σ Q) {time : Int} {l : List (String × Enrolled π)}
    {w : World (Recorder μ σ)} {front back : List (Turn π (Recorder μ σ))}
    {t : Turn π (Recorder μ σ)} (hsplit : turnsIn time l w = front ++ t :: back) :
    t.entered.entries =
      w.entries ++ front.flatMap Turn.entries ++ t.enrolled.settings.setup.map .inl := by
  induction l generalizing w front with
  | nil => simp [turnsIn] at hsplit
  | cons x rest ih =>
    obtain ⟨name, e⟩ := x
    cases he : e.status with
    | idle =>
      simp only [turnsIn, he, renderEntry_idle he] at hsplit
      exact ih hsplit
    | running since =>
      simp only [turnsIn, he] at hsplit
      cases front with
      | nil =>
        obtain ⟨rfl, -⟩ := List.cons.inj hsplit
        simp [Turn.ofRunning, entries_prepare]
      | cons u front =>
        obtain ⟨rfl, hrest⟩ := List.cons.inj hsplit
        rw [ih hrest, entries_renderEntry h he]
        simp only [List.flatMap_cons, List.append_assoc]

end

end Registry

end DemoReel
