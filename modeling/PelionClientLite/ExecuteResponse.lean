import PelionClientLite.Lib.Ledger
import PelionClientLite.Device

/-!
# The response to a POST

A POST to the blink resource is answered 100 ms later, by a timeout that carries no
request with it: it answers the one that `execute_path` and `execute_token` name
when it fires.  Seen from the server the device is a one-slot server, whatever else
it is doing.

## Main definitions

* `App.ledger` — the POSTs accepted and the responses sent to them.
* `App.toOneSlot` — the one-slot server a device is.
* `PostAlone` — no response is due when a POST comes in.

## Main results

* `Device.step_toOneSlot` — a step of the device is one of the server, or none.
* `Device.count_responses` — POSTs that come in alone have a response each.
* `answeredOnce_iff_postAlone` — **every POST is answered once, and no other,
  exactly when each comes in alone.**
-/

namespace PelionClientLite

open Machine Ledger

/-! ### The server a device is -/

/-- A request: the path it came for, and its token. -/
abbrev Request := RegistryPath × Token

/-- A call that accepts or answers a POST to the blink resource. -/
def Call.toEntry : Call → Option (Entry Request)
  | .postAccepted path token => some (.asked (path, token))
  | .deferredResponse path token => some (.answered (path, token))
  | _ => none

namespace App

/-- The POSTs accepted and the responses sent to them, newest first. -/
def ledger (a : App) : List (Entry Request) := a.log.filterMap Call.toEntry

/-- The one-slot server. -/
def toOneSlot (a : App) : OneSlot Request :=
  ⟨(a.client.executePath, a.client.executeToken), a.responsesDue, a.ledger⟩

/-- Calls that neither accept nor answer a POST leave the ledger as it is. -/
theorem ledger_append {a b : App} {calls : List Call} (hlog : b.log = calls ++ a.log)
    (hcalls : ∀ c ∈ calls, c.toEntry = none) : b.ledger = a.ledger := by
  rw [ledger, hlog, Call.filterMap_append hcalls, ledger]

/-- Arming a timer is nothing to the server. -/
theorem pdmcClientRegistered_toOneSlot {a b : App} {env : Env}
    (h : a.pdmcClientRegistered env = .ok b) : b.toOneSlot = a.toOneSlot := by
  obtain ⟨_, _, _, _, hb⟩ := pdmcClientRegistered_keeps h
  rw [hb]
  rfl

theorem afterEvent_toOneSlot (e : ClientEvent) (a : App) :
    (a.afterEvent e).toOneSlot = a.toOneSlot := by
  have hledger : (a.afterEvent e).ledger = a.ledger := by
    cases he : e.isSetupCompleted with
    | false => simp only [ledger, afterEvent, he, if_neg, Bool.false_eq_true, not_false_eq_true]
    | true =>
      simp only [ledger, afterEvent, he, if_true]
      exact List.filterMap_cons_none rfl
  rw [toOneSlot, toOneSlot, hledger]
  rfl

end App

theorem Untouched.toOneSlot {a b : App} (h : Untouched a b) : b.toOneSlot = a.toOneSlot := by
  obtain ⟨calls, hlog, hcalls⟩ := h.log
  have hledger : b.ledger = a.ledger := by
    refine App.ledger_append hlog ?_
    intro c hc
    have hnet := hcalls c hc
    cases c <;> first | rfl | simp [Call.isNetwork] at hnet
  rw [App.toOneSlot, h.executePath, h.executeToken, h.responsesDue, hledger, App.toOneSlot]

/-- The input is a POST to the blink resource. -/
def Input.IsPost (i : Input) : Prop :=
  ∃ env path token, i = .run (.blinkCallback env .execute path token)

/-- What a handler is to the server: a request, an answer, or nothing. -/
theorem App.Handles.toOneSlot {a b : App} {h : Handler} (hb : a.Handles h b) :
    ((Input.run h).IsPost ∧ ∃ r, a.toOneSlot.step (.ask r) = .ok b.toOneSlot) ∨
      (¬ (Input.run h).IsPost ∧
        (b.toOneSlot = a.toOneSlot ∨ a.toOneSlot.step .fire = .ok b.toOneSlot)) := by
  cases hb with
  | clientEvent _ h =>
    refine Or.inr ⟨by simp [Input.IsPost], Or.inl ?_⟩
    rcases App.pdmcEventHandler_spec h with ⟨-, h⟩ | ⟨-, rfl⟩
    · exact App.pdmcClientRegistered_toOneSlot h
    · exact App.afterEvent_toOneSlot _ a
  | taskletEvent _ _ hclicked =>
    obtain ⟨_, _, _, calls, rfl, hcalls⟩ := hclicked
    refine Or.inr ⟨by simp [Input.IsPost], Or.inl ?_⟩
    have hledger := App.ledger_append (a := a) (b := { a with log := calls ++ a.log }) rfl
      fun c hc => by rw [hcalls c hc]; rfl
    exact congrArg (OneSlot.mk _ _) hledger
  | blinkIgnored htype =>
    refine Or.inr ⟨?_, Or.inl rfl⟩
    rintro ⟨_, _, _, heq⟩
    simp only [Input.run.injEq, Handler.blinkCallback.injEq] at heq
    exact htype heq.2.1
  | @blinkExecute env path token _ _ _ _ =>
    refine Or.inl ⟨⟨env, path, token, rfl⟩, (path, token), ?_⟩
    rfl
  | sendApplicationResponse hdue =>
    refine Or.inr ⟨by simp [Input.IsPost], Or.inr ?_⟩
    exact if_neg hdue
  | @unregisterCallback _ _ _ calls hcalls =>
    refine Or.inr ⟨by simp [Input.IsPost], Or.inl ?_⟩
    have hledger := App.ledger_append (a := a) (b := { a with log := calls ++ a.log }) rfl
      fun c hc => by rcases hcalls c hc with rfl | rfl <;> rfl
    exact congrArg (OneSlot.mk _ _) hledger
  | putPattern => exact Or.inr ⟨by simp [Input.IsPost], Or.inl rfl⟩
  | putCounter => exact Or.inr ⟨by simp [Input.IsPost], Or.inl rfl⟩

namespace Device

/-- A step of the device is a step of the server, or none. -/
theorem step_toOneSlot {d t : Device} {i : Input} (h : d.step i = .ok t) :
    (i.IsPost ∧ ∃ r, d.app.toOneSlot.step (.ask r) = .ok t.app.toOneSlot) ∨
      (¬ i.IsPost ∧ (t.app.toOneSlot = d.app.toOneSlot ∨
        d.app.toOneSlot.step .fire = .ok t.app.toOneSlot)) := by
  rcases step_cases h with ⟨hd, rfl, hhandles⟩ | ⟨env, rfl, hinit⟩ | ⟨hrun, -, hother⟩
  · exact hhandles.toOneSlot
  · refine Or.inr ⟨by simp [Input.IsPost], Or.inl ?_⟩
    rw [hinit]
    obtain ⟨counter, registry, hspec⟩ := App.initPdmcClient_spec env d.app
    rw [hspec]
    rfl
  · refine Or.inr ⟨?_, Or.inl hother.toOneSlot⟩
    rintro ⟨env, path, token, rfl⟩
    exact hrun _ rfl

theorem boot_toOneSlot (defaultInstance : Option NetworkInterface) :
    (boot defaultInstance).app.toOneSlot = OneSlot.initial (⟨0, 0, 0⟩, ⟨[]⟩) := by
  rfl

end Device

/-! ### Every POST is answered once -/

/-- When a POST comes in, no response to an earlier one is due. -/
def PostAlone (d : Device) (i : Input) : Prop := i.IsPost → d.app.responsesDue = 0

/-- The requests are spaced in the ledger when each has come in alone. -/
theorem Device.spaced_ledger_iff {defaultInstance : Option NetworkInterface} {is : List Input}
    {t : Device} (hrun : run Device.step (.boot defaultInstance) is = .ok t) :
    Spaced t.app.ledger ↔
      EachStep Device.step (.boot defaultInstance) is fun _ d i => PostAlone d i := by
  have h : t.app.toOneSlot.Counted ∧ (Spaced t.app.toOneSlot.log ↔
      EachStep Device.step (.boot defaultInstance) is fun _ d i => PostAlone d i) := by
    refine run_induction (P := fun is (t : Device) => t.app.toOneSlot.Counted ∧
      (Spaced t.app.toOneSlot.log ↔
        EachStep Device.step (.boot defaultInstance) is fun _ d i => PostAlone d i)) ?_ ?_ hrun
    · rw [Device.boot_toOneSlot]
      exact ⟨rfl, iff_of_true trivial eachStep_nil⟩
    · intro is d i t hd hind h
      obtain ⟨hcount, hspaced⟩ := hind
      rw [eachStep_concat hd, ← hspaced]
      rcases Device.step_toOneSlot h with ⟨hpost, r, hr⟩ | ⟨hpost, heq | hfire⟩
      · -- a POST comes in alone when the answers have caught up
        refine ⟨OneSlot.step_counted hr hcount, ?_⟩
        have hdue : PostAlone d i ↔ d.app.toOneSlot.due = 0 :=
          ⟨fun h => h hpost, fun h _ => h⟩
        rw [OneSlot.step_ask hr, hdue, Spaced, and_comm]
        unfold OneSlot.Counted at hcount
        refine and_congr_right fun _ => ?_
        rw [hcount]
        omega
      · have halone : PostAlone d i := fun h => absurd h hpost
        rw [heq]
        exact ⟨hcount, (and_iff_left halone).symm⟩
      · have halone : PostAlone d i := fun h => absurd h hpost
        refine ⟨OneSlot.step_counted hfire hcount, ?_⟩
        rw [(OneSlot.step_fire hfire).2, Spaced]
        exact (and_iff_left halone).symm
  exact h.2

/-- A device answers every POST once exactly when they are spaced, being a one-slot
server. -/
theorem Device.answeredOnce_iff_spaced {defaultInstance : Option NetworkInterface}
    {is : List Input} {t : Device} (hrun : run Device.step (.boot defaultInstance) is = .ok t)
    (hkeys : KeysDistinct Prod.snd t.app.ledger) (hdue : t.app.responsesDue = 0) :
    AnsweredOnce t.app.ledger ↔ Spaced t.app.ledger := by
  have hsim : ∃ js, run OneSlot.step (OneSlot.initial (⟨0, 0, 0⟩, ⟨[]⟩)) js =
      .ok t.app.toOneSlot := by
    rw [← Device.boot_toOneSlot defaultInstance]
    refine run_simulates (fun d : Device => d.app.toOneSlot) ?_ hrun
    intro d i t h
    rcases Device.step_toOneSlot h with ⟨-, r, hr⟩ | ⟨-, heq | hfire⟩
    · exact Or.inr ⟨_, hr⟩
    · exact Or.inl heq
    · exact Or.inr ⟨_, hfire⟩
  obtain ⟨js, hjs⟩ := hsim
  exact OneSlot.answeredOnce_iff_spaced Prod.snd hjs hkeys hdue

/-- When each POST has come in alone, each has had as many responses as it was sent. -/
theorem Device.count_responses {defaultInstance : Option NetworkInterface} {is : List Input}
    {t : Device} (hrun : run Device.step (.boot defaultInstance) is = .ok t)
    (hkeys : KeysDistinct Prod.snd t.app.ledger) (hdue : t.app.responsesDue = 0)
    (halone : EachStep Device.step (.boot defaultInstance) is fun _ d i => PostAlone d i)
    (r : Request) : t.app.ledger.count (.asked r) = t.app.ledger.count (.answered r) := by
  have hspaced : Spaced t.app.ledger := (Device.spaced_ledger_iff hrun).mpr halone
  have honce := (Device.answeredOnce_iff_spaced hrun hkeys hdue).mpr hspaced
  exact count_asked_eq_count_answered honce r

/-- **Every POST is answered once, and with its own path and token, exactly when each
comes in alone.**  The run is over when every timeout has fired, and requests
outstanding at the same time have different tokens. -/
theorem answeredOnce_iff_postAlone (defaultInstance : Option NetworkInterface)
    {is : List Input} {t : Device} (hrun : run Device.step (.boot defaultInstance) is = .ok t)
    (hkeys : KeysDistinct Prod.snd t.app.ledger) (hdue : t.app.responsesDue = 0) :
    AnsweredOnce t.app.ledger ↔
      EachStep Device.step (.boot defaultInstance) is fun _ d i => PostAlone d i := by
  rw [← Device.spaced_ledger_iff hrun]
  exact Device.answeredOnce_iff_spaced hrun hkeys hdue

/-- The path of the blink resource. -/
def blinkPath : RegistryPath := ⟨3201, 0, 5850⟩

/-- A POST is answered before the next one comes in. -/
theorem answeredOnce_posts_in_turn :
    ∃ t, run Device.step (.boot (some ⟨0⟩)) (Device.startUp ++
        [.run (.blinkCallback {} .execute blinkPath ⟨[1]⟩), .run .sendApplicationResponse,
          .run (.blinkCallback {} .execute blinkPath ⟨[2]⟩), .run .sendApplicationResponse]) =
          .ok t ∧
      AnsweredOnce t.app.ledger := by
  have hrun : ∃ t, run Device.step (.boot (some ⟨0⟩)) (Device.startUp ++
      [.run (.blinkCallback {} .execute blinkPath ⟨[1]⟩), .run .sendApplicationResponse,
        .run (.blinkCallback {} .execute blinkPath ⟨[2]⟩), .run .sendApplicationResponse]) =
        .ok t ∧
      t.app.ledger = [.answered (blinkPath, ⟨[2]⟩), .asked (blinkPath, ⟨[2]⟩),
        .answered (blinkPath, ⟨[1]⟩), .asked (blinkPath, ⟨[1]⟩)] ∧
      t.app.responsesDue = 0 := ⟨_, rfl, rfl, rfl⟩
  obtain ⟨t, ht, hledger, hdue⟩ := hrun
  have hkeys : KeysDistinct Prod.snd t.app.ledger := by
    rw [hledger]
    simp [KeysDistinct, outstanding]
  have hspaced : Spaced t.app.ledger := by
    rw [hledger]
    simp [Spaced]
  exact ⟨t, ht, (answeredOnce_iff_postAlone _ ht hkeys hdue).mpr
    ((Device.spaced_ledger_iff ht).mp hspaced)⟩

/-- A POST that comes in while the response to another is due is answered twice, and
the other is not answered. -/
theorem not_answeredOnce_two_posts :
    ∃ t, run Device.step (.boot (some ⟨0⟩)) (Device.startUp ++
        [.run (.blinkCallback {} .execute blinkPath ⟨[1]⟩),
          .run (.blinkCallback {} .execute blinkPath ⟨[2]⟩),
          .run .sendApplicationResponse, .run .sendApplicationResponse]) = .ok t ∧
      KeysDistinct Prod.snd t.app.ledger ∧ t.app.responsesDue = 0 ∧
        ¬ AnsweredOnce t.app.ledger := by
  have hrun : ∃ t, run Device.step (.boot (some ⟨0⟩)) (Device.startUp ++
      [.run (.blinkCallback {} .execute blinkPath ⟨[1]⟩),
        .run (.blinkCallback {} .execute blinkPath ⟨[2]⟩),
        .run .sendApplicationResponse, .run .sendApplicationResponse]) = .ok t ∧
      t.app.ledger = [.answered (blinkPath, ⟨[2]⟩), .answered (blinkPath, ⟨[2]⟩),
        .asked (blinkPath, ⟨[2]⟩), .asked (blinkPath, ⟨[1]⟩)] ∧
      t.app.responsesDue = 0 := ⟨_, rfl, rfl, rfl⟩
  obtain ⟨t, ht, hledger, hdue⟩ := hrun
  refine ⟨t, ht, ?_, hdue, ?_⟩
  · rw [hledger]
    simp [KeysDistinct, outstanding]
  · rw [hledger]
    simp [AnsweredOnce, AnswersOutstanding, outstanding]

end PelionClientLite
