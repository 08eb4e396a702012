import EdaDaq.Acquisition

/-!
# A slot's transport failures stay on its socket

Two runs of a readout loop that see the same hardware, data and cancellation and differ only in
what one descriptor `fd` answers are twins: they agree on everything but that descriptor's
answers, the results of the exchanges, and the `rc` of the slots whose socket is `fd`. `hide`
erases exactly those, and every step of the loops either commutes with it or, for an exchange
on `fd`, forgets the difference. A consumer on `fd` that stops answering would stop one run and
not the other, so twins also have consumers on `fd` that keep answering.
-/

namespace EdaDaq

/-- A consumer that refuses every call. -/
instance : Inhabited Peer := ⟨⟨fun _ => .fail, fun _ => .fail, []⟩⟩

theorem Peer.live_default : (default : Peer).Live := fun _ => ⟨nofun, nofun⟩

/-- Forget the result of an exchange. -/
def Call.hideRc : Call → Call
  | .sendDif i _ => .sendDif i 0
  | c => c

/-- Forget the `rc` of a slot whose socket is `fd`. -/
def Task.hide (fd : Int) (t : Task) : Task := if t.sck = fd then { t with rc := 0 } else t

/-- Forget the `rc` of the slots whose socket is `fd`. -/
def Device.hide (fd : Int) (ctx : Device) : Device :=
  { ctx with task := fun i => (ctx.task i).hide fd }

/-- Forget what descriptor `fd` answers and the results of all exchanges. -/
def World.hide (fd : Int) (w : World) : World :=
  { w with net := Function.update w.net fd default, calls := w.calls.map Call.hideRc }

/-- Two states that differ at most in what `hide fd` forgets, whose consumers on `fd` keep
answering. -/
def Twin (fd : Int) (s1 s2 : Device × World) : Prop :=
  Prod.map (Device.hide fd) (World.hide fd) s1 = Prod.map (Device.hide fd) (World.hide fd) s2 ∧
    (s1.2.net fd).Live ∧ (s2.2.net fd).Live

section Hide

variable (fd : Int) (ctx : Device) (w : World)

@[simp] theorem runFile_hideRc (file : Nat) (cs : List Call) :
    runFile file (cs.map Call.hideRc) = runFile file cs := by
  induction cs with
  | nil => rfl
  | cons c cs ih =>
    simp only [runFile, List.map_cons, List.flatMap_cons] at ih ⊢
    rw [ih]
    cases c <;> rfl

@[simp] theorem Task.hide_sck (t : Task) : (t.hide fd).sck = t.sck := by
  unfold Task.hide; split <;> rfl

@[simp] theorem Device.hide_task (i : Nat) : (ctx.hide fd).task i = (ctx.task i).hide fd := rfl
@[simp] theorem Device.hide_rfmOn : (ctx.hide fd).rfmOn = ctx.rfmOn := rfl
@[simp] theorem Device.hide_daqFile : (ctx.hide fd).daqFile = ctx.daqFile := rfl
@[simp] theorem World.hide_buffer : (w.hide fd).buffer = w.buffer := rfl
@[simp] theorem World.hide_memory : (w.hide fd).memory = w.memory := rfl

theorem Device.hide_setTask (i : Nat) (t : Task) :
    (ctx.setTask i t).hide fd = (ctx.hide fd).setTask i (t.hide fd) := by
  simp only [Device.hide, Device.setTask, Device.mk.injEq, and_true, true_and]
  funext j; by_cases h : j = i <;> simp [Function.update_apply, h]

theorem World.hide_pollGState :
    (w.hide fd).pollGState = (w.pollGState.1, w.pollGState.2.hide fd) := rfl

theorem World.hide_read (r : Reg) : (w.hide fd).read r = ((w.read r).1, (w.read r).2.hide fd) := rfl

theorem World.hide_call (c : Call) : (w.call c).hide fd = (w.hide fd).call c.hideRc := by
  simp [World.hide, World.call]

theorem busyWait_hide (r : Reg) (v : Word) (n : Nat) :
    busyWait r v n (w.hide fd) = (busyWait r v n w).map (World.hide fd) := by
  induction n generalizing w with
  | zero => rfl
  | succ n ih =>
    simp only [busyWait, World.hide_read, World.hide_pollGState, ih]
    split_ifs <;> rfl

@[simp] theorem Call.hideRc_hideRc (c : Call) : c.hideRc.hideRc = c.hideRc := by
  cases c <;> rfl

@[simp] theorem Task.hide_hide (t : Task) : (t.hide fd).hide fd = t.hide fd := by
  unfold Task.hide; split <;> simp_all

@[simp] theorem Device.hide_hide : (ctx.hide fd).hide fd = ctx.hide fd := by
  simp [Device.hide]

@[simp] theorem World.hide_hide : (w.hide fd).hide fd = w.hide fd := by
  simp [World.hide, Function.comp_def]

theorem Task.hide_window (t : Task) (b e : Nat) :
    ({ t with beg := b, «end» := e } : Task).hide fd = { t.hide fd with beg := b, «end» := e } := by
  unfold Task.hide; split <;> rfl

theorem deviceDaqWriteDif_hide (i : Nat) :
    deviceDaqWriteDif (ctx.hide fd) i (w.hide fd) =
      Prod.map (Device.hide fd) (World.hide fd) (deviceDaqWriteDif ctx i w) := by
  simp [deviceDaqWriteDif, Device.hide_setTask, Task.hide_window, World.hide, Call.hideRc]

theorem bufferSlots_hide (is : List Nat) :
    bufferSlots is (ctx.hide fd) (w.hide fd) =
      Prod.map (Device.hide fd) (World.hide fd) (bufferSlots is ctx w) := by
  induction is generalizing ctx w with
  | nil => rfl
  | cons i is ih =>
    by_cases ha : rfmActive ctx.rfmOn i
    · simp only [bufferSlots, Device.hide_rfmOn, ha, if_true, deviceDaqWriteDif_hide, Prod.map,
        World.hide_pollGState]
      split_ifs
      · exact ih _ _
      · rfl
    · simp only [bufferSlots, Device.hide_rfmOn, ha]
      exact ih ctx w

theorem daqResetBuffer_hide : daqResetBuffer (w.hide fd) = (daqResetBuffer w).hide fd := by
  rw [daqResetBuffer, daqResetBuffer, World.hide_memory]
  simp [World.hide, World.call, Call.hideRc]

theorem Task.hide_of_ne {t : Task} (h : t.sck ≠ fd) : t.hide fd = t := by simp [Task.hide, h]

/-- An exchange on another socket reads nothing `hide` forgets. -/
theorem sendSlot_hide_off {i : Nat} (h : (ctx.task i).sck ≠ fd) :
    (sendSlot i ctx w).map (Prod.map (Device.hide fd) (World.hide fd)) =
      (sendSlot i (ctx.hide fd) (w.hide fd)).map (Prod.map (Device.hide fd) (World.hide fd)) := by
  have ht : (ctx.hide fd).task i = ctx.task i := Task.hide_of_ne fd h
  simp only [sendSlot, World.hide_memory, @deviceDaqSendDif_congr _ _ _ _ _ _ (w.hide fd).net ht]
  rw [show (w.hide fd).net = Function.update w.net fd default from rfl,
    deviceDaqSendDif_update _ _ _ _ (Ne.symm h)]
  cases deviceDaqSendDif Net.transport ctx w.memory i w.net with
  | none => rfl
  | some r =>
    simp only [Option.map_some', Prod.map, Option.some.injEq]
    split_ifs <;> simp [World.hide, Device.hide_setTask, Task.hide_of_ne fd h, Function.comp_def]

/-- An exchange on `fd` that returns changes only what `hide` forgets. -/
theorem sendSlot_hide_on {i : Nat} (h : (ctx.task i).sck = fd) {s : Device × World}
    (hs : sendSlot i ctx w = some s) :
    Prod.map (Device.hide fd) (World.hide fd) s = (ctx.hide fd, (w.hide fd).call (.sendDif i 0)) := by
  obtain ⟨⟨err, net⟩, hd, rfl⟩ := Option.map_eq_some'.mp hs
  have hnet : Function.update net fd default = Function.update w.net fd default := by
    funext x
    by_cases hx : x = fd
    · subst hx; simp
    · simp [Function.update_noteq hx, deviceDaqSendDif_net_other _ _ _ _ hd (h ▸ hx)]
  have hc : ∀ r : Int, (ctx.setTask i { ctx.task i with rc := r }).hide fd = ctx.hide fd := by
    intro r
    rw [Device.hide_setTask]
    simp only [Device.hide, Device.setTask, Device.mk.injEq, and_true, true_and]
    funext j; by_cases hj : j = i
    · subst hj; simp [Task.hide, h]
    · simp [Function.update_noteq hj]
  dsimp only
  split_ifs <;> simp [hc, World.hide, World.call, hnet, Call.hideRc]

/-- An exchange on another socket leaves the consumer on `fd` as it was. -/
theorem sendSlot_net_off {i : Nat} (h : (ctx.task i).sck ≠ fd) {s : Device × World}
    (hs : sendSlot i ctx w = some s) : s.2.net fd = w.net fd := by
  obtain ⟨⟨err, net⟩, hd, rfl⟩ := Option.map_eq_some'.mp hs
  exact deviceDaqSendDif_net_other _ _ _ _ hd (Ne.symm h)

/-- An exchange on `fd` with a consumer that keeps answering returns, and the consumer keeps
answering. -/
theorem sendSlot_live_on {i : Nat} (h : (ctx.task i).sck = fd) (hl : (w.net fd).Live) :
    ∃ s, sendSlot i ctx w = some s ∧ (s.2.net fd).Live := by
  obtain ⟨e, net', hd, hl'⟩ := deviceDaqSendDif_live ctx w.memory i w.net (h ▸ hl)
  exact ⟨_, by rw [sendSlot, hd]; rfl, h ▸ hl'⟩

end Hide

theorem twin_iff {fd : Int} {c1 c2 : Device} {w1 w2 : World} :
    Twin fd (c1, w1) (c2, w2) ↔
      c1.hide fd = c2.hide fd ∧ w1.hide fd = w2.hide fd ∧ (w1.net fd).Live ∧ (w2.net fd).Live := by
  rw [Twin, Prod.map, Prod.map, Prod.mk.injEq, and_assoc]

section Lockstep

variable {α β : Type} {r : α → α → Prop} {s : β → β → Prop}

theorem rel_bind {x y : Option α} (h : Option.Rel r x y) {f g : α → Option β}
    (hf : ∀ a b, r a b → Option.Rel s (f a) (g b)) : Option.Rel s (x.bind f) (y.bind g) := by
  cases h with
  | none => exact .none
  | some h => exact hf _ _ h

theorem rel_map {x y : Option α} (h : Option.Rel r x y) {f g : α → β}
    (hf : ∀ a b, r a b → s (f a) (g b)) : Option.Rel s (x.map f) (y.map g) := by
  cases h with
  | none => exact .none
  | some h => exact .some (hf _ _ h)

theorem rel_imp {x y : Option α} {r' : α → α → Prop} (h : Option.Rel r x y)
    (hr : ∀ a b, r a b → r' a b) : Option.Rel r' x y := by
  cases h with
  | none => exact .none
  | some h => exact .some (hr _ _ h)

end Lockstep

theorem sendSlot_twin {fd : Int} {i : Nat} {s1 s2 : Device × World} (h : Twin fd s1 s2) :
    Option.Rel (Twin fd) (sendSlot i s1.1 s1.2) (sendSlot i s2.1 s2.2) := by
  obtain ⟨c1, w1⟩ := s1
  obtain ⟨c2, w2⟩ := s2
  obtain ⟨hc, hw, hl1, hl2⟩ := twin_iff.mp h
  have hsck : (c2.task i).sck = (c1.task i).sck := by
    simpa using congrArg (fun c => (c.task i).sck) hc.symm
  by_cases hi : (c1.task i).sck = fd
  · obtain ⟨r1, e1, hl1'⟩ := sendSlot_live_on fd c1 w1 hi hl1
    obtain ⟨r2, e2, hl2'⟩ := sendSlot_live_on fd c2 w2 (hsck.trans hi) hl2
    rw [e1, e2]
    have h1 := sendSlot_hide_on fd c1 w1 hi e1
    have h2 := sendSlot_hide_on fd c2 w2 (hsck.trans hi) e2
    exact .some ⟨by rw [h1, h2, hc, hw], hl1', hl2'⟩
  · have e1 := sendSlot_hide_off fd c1 w1 hi
    have e2 := sendSlot_hide_off fd c2 w2 (hsck.trans_ne hi)
    rw [hc, hw, ← e2] at e1
    cases h1 : sendSlot i c1 w1 <;> cases h2 : sendSlot i c2 w2 <;> rw [h1, h2] at e1
    · exact .none
    · cases e1
    · cases e1
    · exact .some ⟨Option.some.inj e1, by rw [sendSlot_net_off fd c1 w1 hi h1]; exact hl1,
        by rw [sendSlot_net_off fd c2 w2 (hsck.trans_ne hi) h2]; exact hl2⟩

/-- The hooks of a trigger mode commute with `hide` and leave the sockets alone. -/
structure Trigger.Hides (tr : Trigger) extends Trigger.KeepsNet tr : Prop where
  started : ∀ fd w, tr.started (w.hide fd) = (tr.started w).hide fd
  persist : ∀ fd ctx w, tr.persist (ctx.hide fd) (w.hide fd) = (tr.persist ctx w).hide fd
  rearm : ∀ fd w, tr.rearm (w.hide fd) = (tr.rearm w).hide fd

theorem Trigger.dcc_hides : Trigger.dcc.Hides :=
  ⟨Trigger.dcc_keepsNet, fun _ _ => rfl,
    fun fd ctx w => by simp [Trigger.dcc, daqWriteBuffer, World.hide_call, Call.hideRc],
    fun _ _ => rfl⟩

theorem Trigger.noise_hides : Trigger.noise.Hides :=
  ⟨Trigger.noise_keepsNet, fun fd w => by simp [Trigger.noise, World.hide_call, Call.hideRc],
    fun _ _ _ => rfl, fun fd w => by simp [Trigger.noise, World.hide_call, Call.hideRc]⟩

theorem awaitData_hide {tr : Trigger} (htr : tr.Hides) (fd : Int) (n : Nat) (w : World) :
    awaitData tr n (w.hide fd) = (awaitData tr n w).map (Prod.map id (World.hide fd)) := by
  simp only [awaitData, busyWait_hide]
  cases busyWait tr.start 0 n w with
  | none => rfl
  | some w =>
    simp only [Option.map_some', World.hide_pollGState]
    split_ifs
    · rw [htr.started, busyWait_hide]
      cases busyWait .fifoReady 0 n (tr.started w.pollGState.2) <;> rfl
    · rfl

/-- A step that commutes with `hide` and leaves the sockets alone keeps twins twins. -/
theorem Twin.map {fd : Int} {F : Device → World → Device × World}
    (hF : ∀ c w, F (c.hide fd) (w.hide fd) = Prod.map (Device.hide fd) (World.hide fd) (F c w))
    (hnet : ∀ c w, (F c w).2.net = w.net)
    {s1 s2 : Device × World} (h : Twin fd s1 s2) : Twin fd (F s1.1 s1.2) (F s2.1 s2.2) := by
  obtain ⟨c1, w1⟩ := s1
  obtain ⟨c2, w2⟩ := s2
  obtain ⟨hc, hw, hl1, hl2⟩ := twin_iff.mp h
  refine ⟨?_, by rw [hnet]; exact hl1, by rw [hnet]; exact hl2⟩
  simp only [← hF, hc, hw]

theorem awaitData_twin {fd : Int} {tr : Trigger} (htr : tr.Hides) (n : Nat) {c1 c2 : Device}
    {w1 w2 : World} (h : Twin fd (c1, w1) (c2, w2)) :
    Option.Rel (fun r1 r2 => r1.1 = r2.1 ∧ Twin fd (c1, r1.2) (c2, r2.2))
      (awaitData tr n w1) (awaitData tr n w2) := by
  obtain ⟨hc, hw, hl1, hl2⟩ := twin_iff.mp h
  have ha : (awaitData tr n w1).map (Prod.map id (World.hide fd)) =
      (awaitData tr n w2).map (Prod.map id (World.hide fd)) := by
    rw [← awaitData_hide htr, ← awaitData_hide htr, hw]
  cases h1 : awaitData tr n w1 <;> cases h2 : awaitData tr n w2 <;> rw [h1, h2] at ha
  · exact .none
  · cases ha
  · cases ha
  · simp only [Option.map_some', Option.some.injEq, Prod.map, id, Prod.mk.injEq] at ha
    exact .some ⟨ha.1, twin_iff.mpr ⟨hc, ha.2, by rw [awaitData_net htr.toKeepsNet h1]; exact hl1,
      by rw [awaitData_net htr.toKeepsNet h2]; exact hl2⟩⟩

theorem sendSlots_twin {fd : Int} (is : List Nat) {s1 s2 : Device × World} (h : Twin fd s1 s2) :
    Option.Rel (Twin fd) (sendSlots is s1.1 s1.2) (sendSlots is s2.1 s2.2) := by
  induction is generalizing s1 s2 with
  | nil => exact .some h
  | cons i is ih =>
    have hr : s1.1.rfmOn = s2.1.rfmOn := by
      simpa using congrArg (fun s => s.1.rfmOn) h.1
    simp only [sendSlots, hr, Option.bind_eq_bind]
    split_ifs
    · exact rel_bind (sendSlot_twin h) fun _ _ h' => ih h'
    · exact ih h

theorem acquire_twin {fd : Int} {tr : Trigger} (htr : tr.Hides) (nb : Nat)
    {s1 s2 : Device × World} (h : Twin fd s1 s2) :
    Option.Rel (Twin fd) (acquire tr nb s1.1 s1.2) (acquire tr nb s2.1 s2.2) := by
  have hb := Twin.map (fun c w => bufferSlots_hide fd c w (List.range nb))
    (fun c w => bufferSlots_net _ c w) h
  have hp := Twin.map (F := fun c w => (c, tr.persist c (w.call .fifoAck)))
    (fun c w => by simp only [Prod.map, ← htr.persist, World.hide_call]; rfl)
    (fun c w => htr.persist_net _ _) hb
  exact rel_map (sendSlots_twin (List.range nb) hp) fun _ _ hs =>
    Twin.map (F := fun c w => ({ c with cycleId := c.cycleId + 1 }, tr.rearm w))
      (fun c w => by simp [htr.rearm, Device.hide]) (fun c w => htr.rearm_net w) hs

/-- Twins run in lockstep: a readout loop ends on both or on neither, and in twin states. -/
theorem readoutLoop_twin {fd : Int} {tr : Trigger} (htr : tr.Hides) (nb n : Nat)
    {c1 c2 : Device} {w1 w2 : World} (h : Twin fd (c1, w1) (c2, w2)) :
    Option.Rel (Twin fd) (readoutLoop tr nb n c1 w1) (readoutLoop tr nb n c2 w2) := by
  induction n generalizing c1 c2 w1 w2 with
  | zero => exact .none
  | succ n ih =>
    have hg : w1.pollGState.1 = w2.pollGState.1 :=
      congrArg (fun w => w.pollGState.1) (twin_iff.mp h).2.1
    have hp := Twin.map (F := fun c w => (c, w.pollGState.2)) (fun c w => rfl) (fun c w => rfl) h
    have hr := Twin.map (F := fun c w => (c, daqResetBuffer w))
      (fun c w => by simp only [daqResetBuffer_hide, Prod.map]) (fun c w => rfl) hp
    rw [readoutLoop_succ, readoutLoop_succ, hg]
    split_ifs
    · refine rel_bind (awaitData_twin htr n hr) fun r1 r2 ⟨hb, hv⟩ => ?_
      rw [hb]
      split_ifs
      · exact rel_bind (acquire_twin htr nb hv) fun _ _ hs => ih hs
      · exact .some hv
    · exact .some hp

theorem deviceLoop_twin {fd : Int} (fp : Fpga) (n : Nat) {c1 c2 : Device} {w1 w2 : World}
    (h : Twin fd (c1, w1) (c2, w2)) :
    Option.Rel (Twin fd) (deviceLoop fp n c1 w1) (deviceLoop fp n c2 w2) := by
  have hm : c1.trigMode = c2.trigMode := (congrArg Device.trigMode (twin_iff.mp h).1 :)
  simp only [deviceLoop, deviceLoopDcc, deviceLoopNoise, hm]
  split_ifs
  · exact readoutLoop_twin Trigger.dcc_hides _ n h
  · exact readoutLoop_twin Trigger.noise_hides _ n h
  · exact .some h

/-- A world and the same world with another peer on `fd` are twins, when both consumers keep
answering. -/
theorem twin_update (fd : Int) (ctx : Device) (w : World) {p : Peer} (hw : (w.net fd).Live)
    (hp : p.Live) : Twin fd (ctx, w) (ctx, { w with net := Function.update w.net fd p }) :=
  twin_iff.mpr ⟨rfl, by simp [World.hide], hw, by simpa using hp⟩

/-- What two runs that differ only on descriptor `fd` end with alike: the run file, the trace up
to the results of exchanges, `cycle_id`, the consumer on every other descriptor, and the task of
every slot on another socket. -/
def Agree (fd : Int) (s1 s2 : Device × World) : Prop :=
  runFile s1.1.daqFile s1.2.calls = runFile s2.1.daqFile s2.2.calls ∧
    s1.2.calls.map Call.hideRc = s2.2.calls.map Call.hideRc ∧ s1.1.cycleId = s2.1.cycleId ∧
    (∀ x, x ≠ fd → s1.2.net x = s2.2.net x) ∧
    ∀ i, (s1.1.task i).sck ≠ fd → s1.1.task i = s2.1.task i

theorem Twin.agree {fd : Int} {s1 s2 : Device × World} (h : Twin fd s1 s2) : Agree fd s1 s2 := by
  obtain ⟨c1, w1⟩ := s1
  obtain ⟨c2, w2⟩ := s2
  obtain ⟨hc, hw, -, -⟩ := twin_iff.mp h
  have hcalls : w1.calls.map Call.hideRc = w2.calls.map Call.hideRc := congrArg World.calls hw
  have hfile : c1.daqFile = c2.daqFile := (congrArg Device.daqFile hc :)
  refine ⟨?_, hcalls, (congrArg Device.cycleId hc :), fun x hx => ?_, fun i hi => ?_⟩
  · rw [← runFile_hideRc, hcalls, runFile_hideRc, hfile]
  · simpa [World.hide, Function.update_noteq hx] using congrFun (congrArg World.net hw) x
  · have ht : (c1.task i).hide fd = (c2.task i).hide fd := congrFun (congrArg Device.task hc) i
    have hs : (c2.task i).sck ≠ fd := by
      have := congrArg Task.sck ht
      simp only [Task.hide_sck] at this
      rwa [← this]
    rwa [Task.hide_of_ne fd hi, Task.hide_of_ne fd hs] at ht

/-- Two runs of the readout loop from one context, whose worlds differ only in what the socket
of slot `k` answers, with consumers on it that keep answering, end together. They end with the
same run file, the same trace up to the results of exchanges, the same `cycle_id`, the same
bytes on every other descriptor, and the same task for every slot on another socket. In every
run that ends, the exchanges are one per active slot and cycle, in ascending slot order, and
slot `k`'s `rc` is the last nonzero result of its exchanges, or its value before the run. -/
theorem deviceLoop_isolates_socket (fp : Fpga) (n : Nat) (ctx : Device) (w : World) (k : Nat)
    (p : Peer) (hw : (w.net (ctx.task k).sck).Live) (hp : p.Live) :
    let fd := (ctx.task k).sck
    Option.Rel (Agree fd) (deviceLoop fp n ctx w)
        (deviceLoop fp n ctx { w with net := Function.update w.net fd p }) ∧
    ∀ v s, deviceLoop fp n ctx v = some s →
      ∃ new m, s.2.calls = v.calls ++ new ∧
        sentSlots new = (List.replicate m (activeSlots fp.nbRfm ctx.rfmOn)).flatten ∧
        s.1.cycleId = ctx.cycleId + m ∧ (s.1.task k).rc = lastRc k (ctx.task k).rc new := by
  refine ⟨?_, fun v s h => ?_⟩
  · exact rel_imp (deviceLoop_twin fp n (twin_update _ ctx w hw hp)) fun _ _ h => h.agree
  · obtain ⟨new, m, hc, hs, hm⟩ := deviceLoop_sends fp n h
    obtain ⟨new', hc', hr⟩ := deviceLoop_rcTrace fp n h
    obtain rfl : new = new' := List.append_cancel_left (hc.symm.trans hc')
    exact ⟨new, m, hc, hs, hm, hr k⟩

/-- Both slots of the two-slot board use descriptor 0; replacing its acknowledging consumer by one
that refuses every call. -/
theorem deviceLoop_isolates_socket_refusing :
    ((readyWorld 5).net (twoSlots.task 0).sck).Live ∧ (default : Peer).Live ∧
      Option.Rel (Agree 0) (deviceLoop board 3 twoSlots (readyWorld 5))
        (deviceLoop board 3 twoSlots { readyWorld 5 with net := Function.update (readyWorld 5).net 0 default }) :=
  have hw : ((readyWorld 5).net (twoSlots.task 0).sck).Live := ackingNet_live 8 (twoSlots.task 0).sck
  ⟨hw, Peer.live_default,
    (deviceLoop_isolates_socket board 3 twoSlots (readyWorld 5) 0 default hw Peer.live_default).1⟩

/-- Slots 0 and 1 are both unconnected, so both use descriptor 0: when the consumer on it refuses
every call, slot 1's `rc` changes with slot 0's. -/
theorem deviceLoop_shared_socket :
    ¬ ∀ (fp : Fpga) (n : Nat) (ctx : Device) (w : World) (k : Nat) (p : Peer),
      (w.net (ctx.task k).sck).Live → p.Live → ∀ i, i ≠ k →
      (deviceLoop fp n ctx w).map (fun s => (s.1.task i).rc) =
        (deviceLoop fp n ctx { w with net := Function.update w.net (ctx.task k).sck p }).map
          (fun s => (s.1.task i).rc) := fun h =>
  absurd (h board 3 twoSlots (readyWorld 5) 0 default (ackingNet_live 8 (twoSlots.task 0).sck) Peer.live_default 1
    (by decide)) (by decide)

end EdaDaq
