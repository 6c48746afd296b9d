import DemoReel.Proofs.Playback.Frame
import DemoReel.Proofs.Playback.Skips

/-!
# What frames keep

What every load of an asset name and every report keeps of the world, a drain keeps; what every
call, every report and every part keeps, a whole frame keeps (`Playback.step_keeps`).
-/

namespace DemoReel

open Number

variable {π σ : Type}

section

variable [Graphics σ] {P : World σ → Prop} {assets : Assets}

/-- What loads of asset names and reports keep, the commands of the standard table keep. -/
theorem CommandTable.dispatch_keeps (hload : World.KeptByAssets assets P)
    (hreport : ∀ w j, P w → P (w.withJournal j)) (c : Command) (time : Int) {st : Stage π σ}
    (h : P st.world) : P (standard.dispatch c assets time st).2.world := by
  rw [dispatch_eq_carryOut]
  cases c.deed with
  | refuse why => exact h
  | finish => exact h
  | ask request =>
    simp only [Deed.carryOut, Handler.updating]
    split
    · exact h
    · rw [World.noteAll_eq_withJournal]
      exact hreport _ _ h
  | load c =>
    have hkept := Effect.ofArgs_keeps_of_assets hload h c.args
    simp only [Deed.carryOut, Handler.effect]
    split
    · next heq => rwa [heq] at hkept
    · next heq =>
      rw [heq] at hkept
      exact hreport _ _ hkept

omit [Graphics σ] in
/-- What the commands of its table and reports keep, a drain keeps. -/
theorem Scheduler.drain_keeps_of_commands {s : Scheduler π σ} {time : Int}
    (hcommand : ∀ c (st : Stage π σ), P st.world →
      P (s.table.dispatch c s.assets time st).2.world)
    (hreport : ∀ w j, P w → P (w.withJournal j)) {w : World σ} (h : P w) :
    P (s.drain time w).2.2 := by
  show P (s.course time w).2.2
  cases hreader : s.reader with
  | none =>
    unfold course
    split
    · exact h
    · rw [hreader]
      exact h
  | some reader =>
    have hnoted : ∀ {r : Script.Reader} {c st st' result}, P st.world →
        s.table.dispatch c s.assets time st = (result, st') →
        P (st'.world.note (verdictEvent time c result)) := by
      intro r c st st' result hst heq
      have hkept := hcommand c st hst
      rw [heq] at hkept
      exact hreport _ _ hkept
    obtain ⟨-, -, hkept⟩ := course_keeps (I := fun _ w => P w) (fun hw _ => hreport _ _ hw)
      (fun {r _ _ _ _} => hnoted (r := r)) rfl rfl hreader h
    exact hkept

/-- What loads of asset names and reports keep, a drain keeps: the standard table asks the backend
for nothing else. -/
theorem Scheduler.drain_keeps (hload : World.KeptByAssets assets P)
    (hreport : ∀ w j, P w → P (w.withJournal j)) {s : Scheduler π σ} (ht : s.table = .standard)
    (ha : s.assets = assets) (time : Int) {w : World σ} (h : P w) :
    P (s.drain time w).2.2 := by
  refine drain_keeps_of_commands (fun c st hst => ?_) hreport h
  rw [ht, ha]
  exact CommandTable.dispatch_keeps hload hreport c time hst

variable [Part π σ]

theorem Registry.prepare_keeps (hcall : ∀ w c, P w → P (w.after c)) (settings : PartSettings)
    {w : World σ} (h : P w) : P (prepare settings w) := by
  unfold prepare
  dsimp only
  split
  · split
    · exact hcall _ _ (hcall _ _ h)
    · exact hcall _ _ (hcall _ _ (hcall _ _ h))
  · split
    · exact h
    · exact hcall _ _ h

theorem Registry.renderEntry_keeps (hcall : ∀ w c, P w → P (w.after c))
    (hreport : ∀ w j, P w → P (w.withJournal j))
    (hpart : ∀ (p : π) (frame : Frame) (w : World σ), P w → P (Part.render p frame w).2.2)
    (time : Int) (name : String) (e : Enrolled π) {w : World σ} (h : P w) :
    P (renderEntry time name e w).2 := by
  cases he : e.status with
  | idle =>
    rw [renderEntry_idle he]
    exact h
  | running since =>
    obtain ⟨events, heq⟩ := exists_restore_of_running he time name w
    have hprepared := prepare_keeps hcall e.settings h
    have hdrawn := hpart e.part ⟨time, wrapInt64 (time - since)⟩ _ hprepared
    rw [heq, World.noteAll_eq_withJournal]
    exact hcall _ _ (hcall _ _ (hreport _ _ hdrawn))

/-- What calls, reports and parts keep, drawing the parts keeps. -/
theorem Registry.render_keeps (hcall : ∀ w c, P w → P (w.after c))
    (hreport : ∀ w j, P w → P (w.withJournal j))
    (hpart : ∀ (p : π) (frame : Frame) (w : World σ), P w → P (Part.render p frame w).2.2)
    (r : Registry π) (time : Int) {w : World σ} (h : P w) : P (r.render time w).2.2 := by
  show P (NameMap.traverseList (renderEntry time) r.parts.entries w).2
  induction r.parts.entries generalizing w with
  | nil => exact h
  | cons x rest ih => exact ih (renderEntry_keeps hcall hreport hpart time x.1 x.2 h)

omit [Part π σ] in
theorem World.drawAll_keeps (hcall : ∀ w c, P w → P (w.after c)) (qs : List Quad) {w : World σ}
    (h : P w) : P (w.drawAll qs) := by
  induction qs generalizing w with
  | nil => exact h
  | cons q qs ih => exact ih (hcall w (.draw q) h)

namespace Playback

omit [Part π σ] in
theorem deliver_keeps (hpresent : ∀ w, P w → P (w.after .present))
    (hcapture : ∀ w path, P w → P (w.after (.capture path))) (status : DrainStatus)
    {p : Playback π σ} (h : P p.world) : P (p.deliver status).2.world := by
  have hpresented : P (p.world.call .present).2 := hpresent p.world h
  have hsaved : ∀ {q : Playback π σ}, P q.world → P q.save.2.world := by
    intro q hq
    unfold save
    cases q.player.mode with
    | live fps => exact hq
    | capture dir fps => exact hcapture q.world _ hq
  unfold deliver
  cases hreply : p.world.call .present with
  | mk reply world =>
    rw [hreply] at hpresented
    cases reply with
    | error e => exact hpresented
    | ok _ =>
      have hdone := hsaved (q := { p with world }) hpresented
      dsimp only
      split
      · next hsave => rwa [hsave] at hdone
      · next hsave => rwa [hsave] at hdone

/-- What calls, reports and parts keep, a frame keeps behind its drain. -/
theorem step_keeps (hcall : ∀ w c, P w → P (w.after c))
    (hreport : ∀ w j, P w → P (w.withJournal j))
    (hpart : ∀ (p : π) (frame : Frame) (w : World σ), P w → P (Part.render p frame w).2.2)
    (reading : Int64) (p : Playback π σ)
    (h : P (p.scheduler.drain (p.timeAt reading) p.world).2.2) : P (p.step reading).2.world := by
  rcases hdrain : p.scheduler.drain (p.timeAt reading) p.world with ⟨result, s, w⟩
  rw [hdrain] at h
  cases result with
  | error e =>
    rw [step_of_drain_error hdrain]
    exact h
  | ok report =>
    rw [step_of_drain hdrain]
    refine deliver_keeps (fun w => hcall w .present) (fun w _ => hcall w _) report.status ?_
    obtain ⟨events, heq⟩ := exists_world_compose (p.timeAt reading) report.dispatched.length
      { p with scheduler := s, world := w }
    have hbackdrop : P w.backdrop := hcall _ _ (hcall _ _ (hcall _ _ h))
    rw [heq, World.noteAll_eq_withJournal]
    exact hreport _ _ (World.drawAll_keeps hcall _
      (s.registry.render_keeps hcall hreport hpart (p.timeAt reading) hbackdrop))

end Playback

end

end DemoReel
