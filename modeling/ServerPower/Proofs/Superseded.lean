import Mathlib.Tactic.Choose
import ServerPower.Proofs.Attempts
import ServerPower.Proofs.Unattended

/-!
# Superseded attempts

A call for an attempt consists of its own steps and of flights, during which others act. Whatever
they do there, what the call does by itself depends only on the scenes that they leave, so a call is
a tree that branches at its flights. Every own step of such a tree keeps the number of the attempt,
and where the call's attempt is not the current one any more it keeps the whole order. A call that
others interrupt by beginning another attempt in flight is superseded, whatever else they do there.
-/

namespace ServerPower.Proofs
open Run

/-- What a call does by itself: it ends, or sends a request and goes on with the scene that the
others leave while the request is in flight. -/
inductive CallTree (α : Type) where
  | ended (outcome : Except Failure α) (t : Scene)
  | flight (u : Scene) (origin : Origin) (request : Request) (next : Scene → CallTree α)

/-- The scene that the others leave in the flight of a request that is sent in a scene. -/
def flown (hook : Hook) (origin : Origin) (request : Request) (u : Scene) : Scene :=
  inFlight hook request (u.note (.sent origin request))

/-- An own step of a call for attempt `k`. It takes no answer and begins no attempt, and where `k`
is not the current attempt it leaves the order alone. -/
structure OwnStep (k : Int) (s t : Scene) : Prop where
  supply : t.supply = s.supply
  attempt : t.order.attempt = s.order.attempt
  aside : s.order.attempt ≠ k → t.order = s.order

namespace OwnStep

variable {k : Int} {s t u : Scene}

lemma refl (k : Int) (s : Scene) : OwnStep k s s := ⟨rfl, rfl, fun _ => rfl⟩

lemma trans (h1 : OwnStep k s t) (h2 : OwnStep k t u) : OwnStep k s u := by
  refine ⟨h2.supply.trans h1.supply, h2.attempt.trans h1.attempt, fun hk => ?_⟩
  rw [h2.aside (h1.attempt ▸ hk), h1.aside hk]

lemma of_order_eq (hs : t.supply = s.supply) (h : t.order = s.order) : OwnStep k s t :=
  ⟨hs, by rw [h], fun _ => h⟩

lemma onOrder {f : PowerOrder → PowerOrder} (ha : (f s.order).attempt = s.order.attempt)
    (hf : s.order.isCurrent (some k) = false → f s.order = s.order) :
    OwnStep k s (s.onOrder f) :=
  ⟨rfl, ha, fun hk => hf (PowerOrder.isCurrent_eq_false hk)⟩

lemma markDone (failure? : Option Failure) :
    OwnStep k s (s.onOrder (·.markDone failure? (some k))) :=
  onOrder (PowerOrder.attempt_markDone _ _ _) (PowerOrder.markDone_of_not_current · _)

lemma noteHardware (hardware : ManagedHardware) (state : PowerState) :
    OwnStep k s (s.onOrder (·.noteHardware (some k) hardware state)) :=
  onOrder (PowerOrder.attempt_noteHardware _ _ _ _) (PowerOrder.noteHardware_of_not_current · _ _)

lemma noteTask (task : RemoteTask) : OwnStep k s (s.onOrder (·.noteTask k task)) :=
  onOrder (PowerOrder.attempt_noteTask _ _ _) (PowerOrder.noteTask_of_not_current · _)

lemma noteProgress (task : RemoteTask) : OwnStep k s (s.onOrder (·.noteProgress (some k) task)) :=
  onOrder (PowerOrder.attempt_noteProgress _ _ _) (PowerOrder.noteProgress_of_not_current · _)

end OwnStep

namespace CallTree

variable {α β : Type} {k : Int}

def play (hook : Hook) : CallTree α → Except Failure α × Scene
  | ended outcome t => (outcome, t)
  | flight u origin request next => (next (flown hook origin request u)).play hook

/-- The scene that the others left in the last flight of the call, or the one it began in. -/
def left (hook : Hook) : Scene → CallTree α → Scene
  | s, ended _ _ => s
  | _, flight u origin request next =>
    (next (flown hook origin request u)).left hook (flown hook origin request u)

def Superseded (k : Int) (hook : Hook) : CallTree α → Prop
  | ended _ _ => False
  | flight u origin request next =>
    (flown hook origin request u).order.attempt ≠ k ∨
      (next (flown hook origin request u)).Superseded k hook

/-- In the flight of some request one of the actions of the others begins an attempt. -/
def Interrupted (hook : Hook) : CallTree α → Prop
  | ended _ _ => False
  | flight u origin request next =>
    (∃ action ∈ (u.supply.next request).1.during, BeginsAttempt action) ∨
      (next (flown hook origin request u)).Interrupted hook

/-- Between its flights the call makes own steps for attempt `k` only, whatever scenes the others
leave. -/
def Yields (k : Int) : Scene → CallTree α → Prop
  | s, ended _ t => OwnStep k s t
  | s, flight u _ _ next => OwnStep k s u ∧ ∀ v, (next v).Yields k v

def andThen (next : Except Failure α → Scene → CallTree β) : CallTree α → CallTree β
  | ended outcome t => next outcome t
  | flight u origin request more => flight u origin request (fun v => (more v).andThen next)

lemma play_andThen (hook : Hook) (next : Except Failure α → Scene → CallTree β)
    (tree : CallTree α) : (tree.andThen next).play hook =
      (next (tree.play hook).1 (tree.play hook).2).play hook := by
  induction tree with
  | ended outcome t => rfl
  | flight u origin request more ih => exact ih _

lemma Yields.after {s t : Scene} {tree : CallTree α} (h : OwnStep k s t) (ht : tree.Yields k t) :
    tree.Yields k s := by
  cases tree with
  | ended outcome u => exact h.trans ht
  | flight u origin request next => exact ⟨h.trans ht.1, ht.2⟩

lemma Yields.andThen {s : Scene} {tree : CallTree α} {next : Except Failure α → Scene → CallTree β}
    (h : tree.Yields k s) (hn : ∀ outcome t, (next outcome t).Yields k t) :
    (tree.andThen next).Yields k s := by
  induction tree generalizing s with
  | ended outcome t => exact (hn outcome t).after h
  | flight u origin request more ih => exact ⟨h.1, fun v => ih v (h.2 v)⟩

lemma Yields.order_eq_left {s : Scene} {tree : CallTree α} (h : tree.Yields k s) (hook : Hook)
    (hk : (tree.left hook s).order.attempt ≠ k) :
    (tree.play hook).2.order = (tree.left hook s).order := by
  induction tree generalizing s with
  | ended outcome t => exact h.aside hk
  | flight u origin request next ih => exact ih _ (h.2 _) hk

/-- A reset in some flight stays: the last flight, too, leaves a later attempt than `k`. -/
lemma Yields.lt_left {s : Scene} {tree : CallTree α} (h : tree.Yields k s) {hook : Hook}
    (hm : ∀ actions s, s.order.attempt ≤ ((hook actions).run s).2.order.attempt)
    (hs : k ≤ s.order.attempt) (hk : k < s.order.attempt ∨ tree.Superseded k hook) :
    k < (tree.left hook s).order.attempt := by
  induction tree generalizing s with
  | ended outcome t => exact hk.resolve_right id
  | flight u origin request next ih =>
    have hu : u.order.attempt = s.order.attempt := h.1.attempt
    have hv : u.order.attempt ≤ (flown hook origin request u).order.attempt := hm _ _
    refine ih _ (h.2 _) (by omega) ?_
    rcases hk with hk | hk | hk
    · exact Or.inl (by omega)
    · exact Or.inl (by omega)
    · exact Or.inr hk

/-- A call for the current attempt that leaves another one as the current was superseded. -/
lemma Yields.superseded_of_ne {s : Scene} {tree : CallTree α} (h : tree.Yields k s) {hook : Hook}
    (hs : s.order.attempt = k) (hk : (tree.play hook).2.order.attempt ≠ k) :
    tree.Superseded k hook := by
  induction tree generalizing s with
  | ended outcome t => exact hk (h.attempt.trans hs)
  | flight u origin request next ih =>
    by_cases hv : (flown hook origin request u).order.attempt = k
    · exact Or.inr (ih _ (h.2 _) hv hk)
    · exact Or.inl hv

/-- An attempt that is begun in some flight supersedes the one of the call, whatever comes of the
other actions there. -/
lemma Yields.superseded_of_interrupted {s : Scene} {tree : CallTree α} (h : tree.Yields k s)
    (hs : k ≤ s.order.attempt) {setup : Setup} {depth : Nat}
    (hi : tree.Interrupted (hookAt setup (depth + 1))) :
    tree.Superseded k (hookAt setup (depth + 1)) := by
  induction tree generalizing s with
  | ended outcome t => exact hi
  | flight u origin request next ih =>
    have hu : u.order.attempt = s.order.attempt := h.1.attempt
    rcases hi with ⟨action, ha, hb⟩ | hi
    · have hlater : u.order.attempt <
          (flown (hookAt setup (depth + 1)) origin request u).order.attempt :=
        lt_hookAt_of_begins setup depth hb ha
          { u.note (.sent origin request) with supply := (u.supply.next request).2 }
      exact Or.inl (by omega)
    · have hlater : u.order.attempt ≤
          (flown (hookAt setup (depth + 1)) origin request u).order.attempt :=
        attempt_le_hookAt _ _ _ _
      exact Or.inr (ih _ (h.2 _) (by omega) hi)

end CallTree

/-- The call is a tree whose own steps are made for attempt `k` only. -/
def Unfolds {α : Type} (k : Int) (call : Hook → Run α) (s : Scene) : Prop :=
  ∃ tree : CallTree α, (∀ hook, Total hook → (call hook).run s = tree.play hook) ∧ tree.Yields k s

namespace Unfolds

variable {α β : Type} {k : Int} {s : Scene}

lemma own {run : Run α} (h : OwnStep k s (run.run s).2) : Unfolds k (fun _ => run) s :=
  ⟨.ended (run.run s).1 (run.run s).2, fun _ _ => rfl, h⟩

lemma bind {x : Hook → Run α} {f : Hook → α → Run β} (h : Unfolds k x s)
    (hf : ∀ a t, Unfolds k (fun hook => f hook a) t) :
    Unfolds k (fun hook => x hook >>= f hook) s := by
  obtain ⟨tree, hplay, hyields⟩ := h
  choose more hmore using hf
  let next : Except Failure α → Scene → CallTree β
    | .ok a, t => more a t
    | .error failure, t => .ended (.error failure) t
  refine ⟨tree.andThen next, fun hook hh => ?_, hyields.andThen (fun outcome t => ?_)⟩
  · rw [CallTree.play_andThen, run_bind, hplay hook hh]
    rcases tree.play hook with ⟨failure | a, t⟩
    · rfl
    · exact (hmore a t).1 hook hh
  · cases outcome with
    | error failure => exact OwnStep.refl k t
    | ok a => exact (hmore a t).2

lemma after {run : Run α} {f : Hook → α → Run β} {a : α} {t : Scene} (h : run.run s = (.ok a, t))
    (ht : OwnStep k s t) (hf : Unfolds k (fun hook => f hook a) t) :
    Unfolds k (fun hook => run >>= f hook) s := by
  obtain ⟨tree, hplay, hyields⟩ := hf
  refine ⟨tree, fun hook hh => ?_, hyields.after ht⟩
  rw [run_bind, h]
  exact hplay hook hh

lemma outcome {x : Hook → Run α} (h : Unfolds k x s) :
    Unfolds k (fun hook => Run.outcome (x hook)) s := by
  obtain ⟨tree, hplay, hyields⟩ := h
  refine ⟨tree.andThen fun outcome t => .ended (.ok outcome) t, fun hook hh => ?_,
    hyields.andThen (fun outcome t => OwnStep.refl k t)⟩
  rw [CallTree.play_andThen, run_outcome, hplay hook hh]
  rfl

lemma logs (report : Report α) : Unfolds k (fun _ => ofReport report) s :=
  own (by rw [run_ofReport]; exact .of_order_eq (logged_supply _ _) (logged_order _ _))

lemma call (setup : Setup) (origin : Origin) (client : Client) (method : String) (uri body : Json) :
    Unfolds k (fun hook => Run.call setup hook origin client method uri body) s := by
  cases hr : client.request method uri body with
  | error failure =>
    refine ⟨.ended (.error failure) s, fun hook hh => ?_, OwnStep.refl k s⟩
    rw [run_call hh, hr]
    rfl
  | ok request =>
    let report := readAnswer setup.strict method uri request (s.supply.next request).1
    refine ⟨.flight s origin request fun v => .ended report.outcome
      ((logged report.records v).note (.answered origin request report.outcome)),
      fun hook hh => ?_, OwnStep.refl k s, fun v => OwnStep.of_order_eq ?_ ?_⟩
    · rw [run_call hh, hr]
      rfl
    · rw [Scene.supply_note, logged_supply]
    · rw [Scene.order_note, logged_order]

lemma log (level : Level) (text : String) : Unfolds k (fun _ => Run.log level text) s :=
  own (.of_order_eq rfl rfl)

lemma giveUp (message : String) (failure : Failure) :
    Unfolds k (fun _ => Run.giveUp k message failure) s :=
  bind (log _ _) (fun _ _ => own (.markDone _))

lemma throw (failure : Failure) : Unfolds k (fun _ => (MonadExcept.throw failure : Run α)) s :=
  own (OwnStep.refl k s)

/-- A query for `k`. Only of hardware without an address it notes, before any call, that its state
is unknown. -/
lemma observe (setup : Setup) (origin : Origin)
    (hs : s.order.hardware.hardware.uri.isGiven ∨ s.order.attempt = k) :
    Unfolds k (fun hook => Run.observe setup hook origin (some k)) s := by
  unfold Run.observe
  refine after (run_order s) (OwnStep.refl k s) ?_
  by_cases hu : s.order.hardware.hardware.uri.isGiven
  · simp only [hu, Bool.not_true, Bool.false_eq_true, if_false]
    refine bind (call _ _ _ _ _ _) (fun body t => ?_)
    refine bind (logs _) (fun latest t => ?_)
    refine bind (logs _) (fun state t => ?_)
    exact own (.noteHardware _ _)
  · simp only [hu, Bool.not_false, if_true]
    have hk : s.order.attempt = k := hs.resolve_left hu
    have hforget : OwnStep k s (s.onOrder ({ · with observed := .unknown })) :=
      ⟨rfl, rfl, fun h => absurd hk h⟩
    refine after (run_updateOrder _ s) hforget ?_
    refine bind (logs _) (fun _ t => ?_)
    refine bind (call _ _ _ _ _ _) (fun body t => ?_)
    refine bind (logs _) (fun latest t => ?_)
    refine bind (logs _) (fun state t => ?_)
    exact own (.noteHardware _ _)

lemma refresh (setup : Setup) (origin : Origin) :
    Unfolds k (fun hook => Run.refresh setup hook origin (some k)) s := by
  unfold Run.refresh
  refine after (run_order s) (OwnStep.refl k s) ?_
  by_cases ht : s.order.task.exists?
  · simp only [ht, Bool.not_true, Bool.false_eq_true, if_false]
    refine bind (call _ _ _ _ _ _) (fun body t => ?_)
    refine bind (logs _) (fun latest t => ?_)
    exact own (.noteProgress _)
  · simp only [ht, Bool.not_false, if_true]
    exact own (OwnStep.refl k s)

lemma requestChange (setup : Setup) (origin : Origin) (target : PowerState) :
    Unfolds k (fun hook => Run.requestChange setup hook origin target k) s := by
  unfold Run.requestChange
  refine after (run_order s) (OwnStep.refl k s) ?_
  refine bind (log _ _) (fun _ t => ?_)
  refine bind (own (by rw [run_ofExcept]; exact OwnStep.refl k t)) (fun uri t => ?_)
  refine bind (outcome (call _ _ _ _ _ _)) (fun reply t => ?_)
  cases reply with
  | error failure =>
    dsimp only
    split
    · exact giveUp _ _
    · exact throw _
  | ok body =>
    refine bind (outcome (logs _)) (fun read t => ?_)
    cases read with
    | error failure =>
      dsimp only
      split
      · exact giveUp _ _
      · exact throw _
    | ok task => exact own (.noteTask _)

lemma submit (setup : Setup) (target : PowerState) {attempt? : Option Int}
    (ha : attempt?.getD s.order.attempt = k)
    (hs : s.order.hardware.hardware.uri.isGiven ∨ s.order.attempt = k) :
    Unfolds k (fun hook => Run.submit setup hook target attempt?) s := by
  unfold Run.submit
  refine after (run_order s) (OwnStep.refl k s) ?_
  refine after (run_get s) (OwnStep.refl k s) ?_
  refine after (run_modify _ s) (.of_order_eq rfl rfl) ?_
  rw [ha]
  refine bind (outcome (observe _ _ hs)) (fun state t => ?_)
  cases state with
  | error failure =>
    dsimp only
    split
    · exact giveUp _ _
    · exact throw _
  | ok state =>
    dsimp only
    split
    · exact bind (log _ _) (fun _ _ => own (.markDone _))
    · exact requestChange _ _ _

lemma work (setup : Setup) (target : PowerState)
    (hs : s.order.hardware.hardware.uri.isGiven ∨ s.order.attempt = k) :
    Unfolds k (fun hook => Run.work setup hook target k) s := by
  unfold Run.work
  refine bind (outcome (submit setup target rfl hs)) (fun ended t => ?_)
  cases ended with
  | error failure => exact giveUp _ _
  | ok _ => exact own (OwnStep.refl k t)

end Unfolds

/-- Once attempt `k` is superseded while a request of the call is in flight, the call changes
nothing of the order any more. It is a tree of own steps for `k` and of flights, and if in some
flight the others begin another attempt, then the order ends as they left it in the last flight. So
it was superseded just if another attempt is the current one in the end. -/
def GivesWay {α : Type} (k : Int) (call : Hook → Run α) (s : Scene) : Prop :=
  ∃ tree : CallTree α,
    (∀ hook, Total hook → (call hook).run s = tree.play hook) ∧ tree.Yields k s ∧
    ∀ setup depth, (tree.Superseded k (hookAt setup depth) →
        k < (tree.left (hookAt setup depth) s).order.attempt ∧
        ((call (hookAt setup depth)).run s).2.order = (tree.left (hookAt setup depth) s).order) ∧
      (tree.Superseded k (hookAt setup depth) ↔
        ((call (hookAt setup depth)).run s).2.order.attempt ≠ k) ∧
      (tree.Interrupted (hookAt setup (depth + 1)) →
        tree.Superseded k (hookAt setup (depth + 1)))

lemma Unfolds.givesWay {α : Type} {k : Int} {call : Hook → Run α} {s : Scene}
    (h : Unfolds k call s) (hk : s.order.attempt = k) : GivesWay k call s := by
  obtain ⟨tree, hplay, hyields⟩ := h
  refine ⟨tree, hplay, hyields, fun setup depth => ?_⟩
  rw [hplay _ (total_hookAt setup depth)]
  have hleft (hsup : tree.Superseded k (hookAt setup depth)) :
      k < (tree.left (hookAt setup depth) s).order.attempt ∧
      (tree.play (hookAt setup depth)).2.order = (tree.left (hookAt setup depth) s).order := by
    have hlt := hyields.lt_left (attempt_le_hookAt setup depth) (Int.le_of_eq hk.symm)
      (Or.inr hsup)
    exact ⟨hlt, hyields.order_eq_left _ (by omega)⟩
  refine ⟨hleft, ⟨fun hsup => ?_, hyields.superseded_of_ne hk⟩,
    hyields.superseded_of_interrupted (Int.le_of_eq hk.symm)⟩
  obtain ⟨hlt, horder⟩ := hleft hsup
  rw [horder]
  omega

/-- The call is superseded in flight and ends with the order that others left in its last flight. -/
def SupersededIn {α : Type} (k : Int) (call : Hook → Run α) (s : Scene) (setup : Setup)
    (depth : Nat) : Prop :=
  ∃ tree : CallTree α, (call (hookAt setup depth)).run s = tree.play (hookAt setup depth) ∧
    tree.Superseded k (hookAt setup depth) ∧
    ((call (hookAt setup depth)).run s).2.order = (tree.left (hookAt setup depth) s).order

lemma GivesWay.supersededIn {α : Type} {k : Int} {call : Hook → Run α} {s : Scene}
    (h : GivesWay k call s) {setup : Setup} {depth : Nat}
    (hk : ((call (hookAt setup depth)).run s).2.order.attempt ≠ k) :
    SupersededIn k call s setup depth := by
  obtain ⟨tree, hplay, -, hgives⟩ := h
  obtain ⟨hleft, hiff, -⟩ := hgives setup depth
  have hsup := hiff.mpr hk
  exact ⟨tree, hplay _ (total_hookAt setup depth), hsup, (hleft hsup).2⟩

/-- Every call that is begun for the current attempt gives way to a later one: submissions, run by
the pool or directly, and queries for the hardware and for the task. -/
theorem superseded_calls_give_way (setup : Setup) (target : PowerState) (origin : Origin)
    (s : Scene) :
    let k := s.order.attempt
    GivesWay k (fun hook => work setup hook target k) s ∧
    GivesWay k (fun hook => submit setup hook target (some k)) s ∧
    GivesWay k (fun hook => submit setup hook target none) s ∧
    GivesWay k (fun hook => observe setup hook origin (some k)) s ∧
    GivesWay k (fun hook => refresh setup hook origin (some k)) s := by
  dsimp only
  refine ⟨?_, ?_, ?_, ?_, ?_⟩
  · exact (Unfolds.work setup target (Or.inr rfl)).givesWay rfl
  · exact (Unfolds.submit setup target rfl (Or.inr rfl)).givesWay rfl
  · exact (Unfolds.submit setup target rfl (Or.inr rfl)).givesWay rfl
  · exact (Unfolds.observe setup origin (Or.inr rfl)).givesWay rfl
  · exact (Unfolds.refresh setup origin).givesWay rfl

/-- The manager finds the blade switched off and accepts its change, while others do what is given
during the query and during the request for the change. -/
def answeringBlade (queried changed : List Action) : Scene :=
  bladeScene
    [{ during := queried,
       content := .reply 200 "OK" "\x7b\"uri\": \"/b\", \"powerState\": \"Off\"\x7d" },
      { during := changed, content := .reply 202 "Accepted" "\x7b\"uri\": \"/t\"\x7d" }]

/-- Someone resets the order during the query, or resets it during the request for the change and
cancels the new attempt. Neither what the query finds then nor the task counts. -/
theorem superseded_calls_give_way_midway :
    let call := fun hook => work calm hook .on 0
    let queried := answeringBlade [.reset] []
    let changed := answeringBlade [] [.reset, .cancel]
    (sentRequests ((call (hookAt calm 1)).run queried).2).length = 2 ∧
      ((call (hookAt calm 1)).run queried).2.order = queried.order.reset ∧
      SupersededIn 0 call queried calm 1 ∧
      (sentRequests ((call (hookAt calm 1)).run changed).2).length = 2 ∧
      ((call (hookAt calm 1)).run changed).2.order.task = {} ∧
      ((call (hookAt calm 1)).run changed).2.order.cancelled = true ∧
      SupersededIn 0 call changed calm 1 := by
  intro call queried changed
  have hqueried : GivesWay 0 call queried := (superseded_calls_give_way calm .on .query queried).1
  have hchanged : GivesWay 0 call changed := (superseded_calls_give_way calm .on .query changed).1
  exact ⟨by decide +kernel, by decide +kernel, hqueried.supersededIn (by decide +kernel),
    by decide +kernel, by decide +kernel, by decide +kernel,
    hchanged.supersededIn (by decide +kernel)⟩

end ServerPower.Proofs
