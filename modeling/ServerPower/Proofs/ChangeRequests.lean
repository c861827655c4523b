import ServerPower.Proofs.Unattended

/-!
# Requests for changes

Only submissions ask the manager for a change of power, and each does so at most once, after its own
query found the hardware in another state than its target. The traces that a submission leaves in
the journal are known when it ends, however many others ran meanwhile, and nothing is added to them
afterwards.
-/

namespace ServerPower.Proofs
open Run

def submissionOf? (event : Event) : Option Nat :=
  match originOf? event with
  | some (.submission number _) => some number
  | _ => none

/-- The events on behalf of a submission, the first one first. -/
def traces (number : Nat) (entries : List Entry) : List Event :=
  ((entries.map (·.event)).filter (submissionOf? · = some number)).reverse

def changeText (target : PowerState) : String :=
  "\x7b\"powerState\": \"" ++ target.wire ++ "\", \"powerControl\": \"MomentaryPress\"\x7d"

/-- What a submission may do: nothing, or look at the hardware, or ask for the change as well, once
the hardware was found in another state than the target. -/
inductive Conducted (target : PowerState) (origin : Origin) : List Event → Prop
  | unasked : Conducted target origin []
  | looked {look : Request} {outcome : Except Failure String} (get : look.method = "GET") :
      Conducted target origin [.sent origin look, .answered origin look outcome]
  | changed {look change : Request} {body : String} {latest : Hardware}
      {outcome : Except Failure String} (get : look.method = "GET")
      (described : Describes body latest) (differs : classified latest ≠ target)
      (put : change.method = "PUT") (data : change.data = some (changeText target)) :
      Conducted target origin [.sent origin look, .answered origin look (.ok body),
        .sent origin change, .answered origin change outcome]

def asksForChange (event : Event) : Bool :=
  match event with
  | .sent _ request => request.method = "PUT"
  | _ => false

/-- A submission was run as this one, all traces of its number are from then, and it was conducted
for its own target. -/
structure MadeBy (setup : Setup) (number : Nat) (journal : List Entry) (depth : Nat)
    (target : PowerState) (attempt? : Option Int) (s : Scene) : Prop where
  submissions : s.submissions = number
  unasked : traces number s.journal = []
  ran : ((submit setup (hookAt setup depth) target attempt?).run s).2.journal <:+ journal
  own : traces number ((submit setup (hookAt setup depth) target attempt?).run s).2.journal =
    traces number journal
  conducted : Conducted target (.submission number (attempt?.getD s.order.attempt))
    (traces number journal)

def Made (setup : Setup) (number : Nat) (journal : List Entry) : Prop :=
  ∃ depth target attempt? s, MadeBy setup number journal depth target attempt? s

/-- No submission to come has left traces, and only submissions asked for changes. -/
structure Counted (s : Scene) : Prop where
  fresh : ∀ number, s.submissions ≤ number → traces number s.journal = []
  owned : ∀ e ∈ s.journal, ∀ origin request, e.event = .sent origin request →
    request.method = "PUT" → ∃ number attempt, origin = .submission number attempt

/-- From one scene to the other submissions were run, and submission `number` went on and left these
events. -/
structure Proceeds (setup : Setup) (number : Nat) (events : List Event) (s t : Scene) : Prop where
  counted : Counted t
  submissions : s.submissions ≤ t.submissions
  journal : s.journal <:+ t.journal
  traces : traces number t.journal = traces number s.journal ++ events
  others : ∀ n < s.submissions, n ≠ number → Proofs.traces n t.journal = Proofs.traces n s.journal
  made : ∀ n, s.submissions ≤ n → n < t.submissions → Made setup n t.journal

/-- From one scene to the other submissions were run from their beginnings to their ends. -/
structure Counts (setup : Setup) (s t : Scene) : Prop where
  submissions : s.submissions ≤ t.submissions
  journal : s.journal <:+ t.journal
  traces : ∀ n < s.submissions, traces n t.journal = traces n s.journal
  made : ∀ n, s.submissions ≤ n → n < t.submissions → Made setup n t.journal

section Traces

variable {setup : Setup} {number : Nat} {s t u : Scene} {events more : List Event}

lemma traces_cons (number : Nat) (e : Entry) (entries : List Entry) :
    traces number (e :: entries) =
      traces number entries ++ if submissionOf? e.event = some number then [e.event] else [] := by
  unfold traces
  by_cases h : submissionOf? e.event = some number
  · simp [h]
  · simp [h]

lemma traces_cons_of_ne {e : Entry} (h : submissionOf? e.event ≠ some number)
    (entries : List Entry) : traces number (e :: entries) = traces number entries := by
  rw [traces_cons, if_neg h, List.append_nil]

lemma traces_append (number : Nat) (new old : List Entry) :
    traces number (new ++ old) = traces number old ++ traces number new := by
  unfold traces
  rw [List.map_append, List.filter_append, List.reverse_append]

lemma mem_traces {e : Entry} {entries : List Entry} (he : e ∈ entries)
    (h : submissionOf? e.event = some number) : e.event ∈ traces number entries := by
  simp only [traces, List.mem_reverse, List.mem_filter, List.mem_map, decide_eq_true_eq]
  exact ⟨⟨e, he, rfl⟩, h⟩

lemma encode_changeBody (target : PowerState) : (changeBody target).encode = changeText target := by
  cases target <;> decide +kernel

lemma data_of_request_eq_ok {client : Client} {method : String} {uri body : Json}
    {request : Request} (h : client.request method uri body = .ok request) (hb : body ≠ .null) :
    request.data = some body.encode := by
  unfold Client.request at h
  cases hu : client.url uri with
  | error failure => simp [hu, bind, Except.bind] at h
  | ok url =>
    simp only [hu, hb, bind, Except.bind, pure, Except.pure, if_false, Except.ok.injEq] at h
    subst h
    rfl

lemma Conducted.countP_le_one {target : PowerState} {origin : Origin}
    (h : Conducted target origin events) : events.countP asksForChange ≤ 1 := by
  cases h with
  | unasked => exact Nat.zero_le 1
  | looked get => simp [asksForChange, get]
  | changed get described differs put data => simp [asksForChange, get, put]

/-- A submission has one request for a change answered at most. -/
lemma Conducted.answer_unique {target : PowerState} {origin o o' : Origin} {r r' : Request}
    {outcome outcome' : Except Failure String} (h : Conducted target origin events)
    (ha : .answered o r outcome ∈ events) (hp : r.method = "PUT")
    (ha' : .answered o' r' outcome' ∈ events) (hp' : r'.method = "PUT") : outcome = outcome' := by
  have hne : ∀ look : Request, look.method = "GET" → look.method ≠ "PUT" := by
    intro look get
    rw [get]
    decide
  cases h with
  | unasked => cases ha
  | looked get =>
    simp only [List.mem_cons, Event.answered.injEq, reduceCtorEq, false_or, List.not_mem_nil,
      or_false] at ha
    obtain ⟨-, rfl, -⟩ := ha
    exact absurd hp (hne r get)
  | changed get described differs put data =>
    simp only [List.mem_cons, Event.answered.injEq, reduceCtorEq, false_or, List.not_mem_nil,
      or_false] at ha ha'
    rcases ha with ⟨-, rfl, -⟩ | ⟨-, -, rfl⟩
    · exact absurd hp (hne r get)
    · rcases ha' with ⟨-, rfl, -⟩ | ⟨-, -, rfl⟩
      · exact absurd hp' (hne r' get)
      · rfl

lemma Made.later {journal journal' : List Entry} (h : Made setup number journal)
    (hj : journal <:+ journal') (ht : traces number journal' = traces number journal) :
    Made setup number journal' := by
  obtain ⟨depth, target, attempt?, s, h⟩ := h
  exact ⟨depth, target, attempt?, s, h.submissions, h.unasked, h.ran.trans hj,
    h.own.trans ht.symm, by rw [ht]; exact h.conducted⟩

lemma Made.countP_le_one {journal : List Entry} (h : Made setup number journal) :
    (traces number journal).countP asksForChange ≤ 1 := by
  obtain ⟨_, _, _, _, h⟩ := h
  exact h.conducted.countP_le_one

lemma Counts.refl (setup : Setup) (s : Scene) : Counts setup s s :=
  ⟨Nat.le_refl _, List.suffix_rfl, fun _ _ => rfl, fun n h h' => absurd h' (by omega)⟩

lemma Counts.trans (h1 : Counts setup s t) (h2 : Counts setup t u) : Counts setup s u := by
  refine ⟨Nat.le_trans h1.submissions h2.submissions, h1.journal.trans h2.journal, fun n hn => ?_,
    fun n hn hn' => ?_⟩
  · rw [h2.traces n (Nat.lt_of_lt_of_le hn h1.submissions), h1.traces n hn]
  · by_cases ht : n < t.submissions
    · exact (h1.made n hn ht).later h2.journal (h2.traces n ht)
    · exact h2.made n (by omega) hn'

lemma Proceeds.trans (hn : number < s.submissions) (h1 : Proceeds setup number events s t)
    (h2 : Proceeds setup number more t u) : Proceeds setup number (events ++ more) s u := by
  refine ⟨h2.counted, Nat.le_trans h1.submissions h2.submissions, h1.journal.trans h2.journal, ?_,
    fun n hs hne => ?_, fun n hs hu => ?_⟩
  · rw [h2.traces, h1.traces, List.append_assoc]
  · rw [h2.others n (Nat.lt_of_lt_of_le hs h1.submissions) hne, h1.others n hs hne]
  · by_cases ht : n < t.submissions
    · exact (h1.made n hs ht).later h2.journal (h2.others n ht (by omega))
    · exact h2.made n (by omega) hu

end Traces

def counting (setup : Setup) : Law where
  holds := Counted
  leads := Counts setup
  refl := Counts.refl setup
  trans := Counts.trans

section Steps

variable {setup : Setup} {hook : Hook} {s t u : Scene} {number : Nat} {attempt : Int}
  {events : List Event} {depth : Nat}

lemma counting_still (hj : t.journal = s.journal) (hn : t.submissions = s.submissions) :
    (counting setup).Step s t := by
  intro h
  refine ⟨⟨?_, ?_⟩, Nat.le_of_eq hn.symm, ⟨[], hj.symm⟩, fun n _ => by rw [hj], fun n h h' =>
    absurd h' (by omega)⟩
  · rw [hj, hn]
    exact h.fresh
  · rw [hj]
    exact h.owned

lemma counting_note {event : Event} (he : submissionOf? event = none)
    (hp : ∀ origin request, event = .sent origin request → request.method ≠ "PUT") :
    (counting setup).Step s (s.note event) := by
  have hother : ∀ n, traces n (s.note event).journal = traces n s.journal :=
    fun n => traces_cons_of_ne (by rw [he]; exact fun h => nomatch h) _
  intro h
  refine ⟨⟨fun n hn => (hother n).trans (h.fresh n hn), fun e hm origin request hs hput => ?_⟩,
    Nat.le_refl _, List.suffix_cons _ _, fun n _ => hother n, fun n h h' => absurd h' (by
      simpa [Scene.note] using h)⟩
  rcases List.mem_cons.mp hm with rfl | hm
  · exact absurd hput (hp origin request hs)
  · exact h.owned e hm origin request hs hput

lemma counting_remarks (setup : Setup) : (counting setup).Remarks := by
  intro s event he _
  refine counting_note ?_ (fun origin request hs => ?_)
  · simp [submissionOf?, he]
  · rw [hs] at he
    cases he

/-- A submission that was begun notes something. -/
lemma proceeds_note (h : Counted s) (hn : number < s.submissions) (event : Event)
    (he : originOf? event = some (.submission number attempt)) :
    Proceeds setup number [event] s (s.note event) := by
  have hown : submissionOf? event = some number := by simp [submissionOf?, he]
  have hother : ∀ n, n ≠ number → traces n (s.note event).journal = traces n s.journal := by
    intro n hne
    refine traces_cons_of_ne ?_ _
    rw [hown]
    exact fun h => hne (Option.some.inj h).symm
  refine ⟨⟨fun n hs => ?_, fun e hm origin request hs hput => ?_⟩, Nat.le_refl _,
    List.suffix_cons _ _, ?_, fun n _ => hother n, fun n h h' => absurd h' (by
      simpa [Scene.note] using h)⟩
  · have hne : n ≠ number := by
      have hs : s.submissions ≤ n := hs
      omega
    exact (hother n hne).trans (h.fresh n hs)
  · rcases List.mem_cons.mp hm with rfl | hm
    · dsimp only at hs
      rw [hs] at he
      exact ⟨number, attempt, Option.some.inj he⟩
    · exact h.owned e hm origin request hs hput
  · rw [Scene.journal_note, traces_cons, if_pos hown]

/-- Whatever the others do, it adds nothing to a submission that was begun. -/
lemma proceeds_of_step (hs : Counted s) (hn : number < s.submissions)
    (h : (counting setup).Step s t) : Proceeds setup number [] s t := by
  obtain ⟨ht, hcounts⟩ := h hs
  refine ⟨ht, hcounts.submissions, hcounts.journal, ?_, fun n hs _ => hcounts.traces n hs,
    hcounts.made⟩
  rw [hcounts.traces number hn, List.append_nil]

lemma Proceeds.meanwhile (h : Proceeds setup number events s t) (hn : number < s.submissions)
    (hs : (counting setup).Step t u) : Proceeds setup number events s u := by
  have hrest := proceeds_of_step h.counted (Nat.lt_of_lt_of_le hn h.submissions) hs
  have hall := h.trans hn hrest
  rwa [List.append_nil] at hall

lemma submissionOf?_of_watches {origin : Origin} {event : Event} (h : Watches origin)
    (he : originOf? event = some origin) : submissionOf? event = none := by
  unfold submissionOf?
  rw [he]
  cases origin with
  | submission number attempt => exact h.elim
  | polling _ | query => rfl

lemma counting_carries (hh : (counting setup).Hosts (fun _ => True) setup hook) {origin : Origin}
    (ho : Watches origin) : (counting setup).Carries hook origin where
  total := hh.total
  remarks := counting_remarks setup
  flown _ _ := hh.step_inFlight (counting_still rfl rfl) (fun _ _ _ => trivial)
  answered _ _ _ := counting_note (submissionOf?_of_watches ho rfl) (fun _ _ h => nomatch h)
  forgot _ := counting_still rfl rfl
  hardware _ _ _ _ := counting_still rfl rfl
  progress _ _ _ := counting_still rfl rfl

/-- A call of a submission leaves its request and what came back, and nothing else. -/
lemma proceeds_call (hh : (counting setup).Hosts (fun _ => True) setup hook) (h : Counted s)
    (hn : number < s.submissions) (attempt : Int) (client : Client) (method : String)
    (uri body : Json) :
    let origin := Origin.submission number attempt
    let r := (call setup hook origin client method uri body).run s
    (∃ failure, r = (.error failure, s)) ∨
      ∃ request, client.request method uri body = .ok request ∧
        Proceeds setup number [.sent origin request, .answered origin request r.1] s r.2 := by
  dsimp only
  rw [run_call hh.total]
  cases client.request method uri body with
  | error failure => exact Or.inl ⟨failure, rfl⟩
  | ok request =>
    let origin := Origin.submission number attempt
    let report := readAnswer setup.strict method uri request (s.supply.next request).1
    let sent := s.note (.sent origin request)
    have hsent : Proceeds setup number [.sent origin request] s sent :=
      proceeds_note h hn _ rfl
    have hflown : (counting setup).Step sent (inFlight hook request sent) :=
      hh.step_inFlight (counting_still rfl rfl) (fun _ _ _ => trivial)
    have hleft := hsent.meanwhile hn
      (hflown.trans ((counting_remarks setup).step_logged report.records _))
    have hanswered : Proceeds setup number [.answered origin request report.outcome] _ _ :=
      proceeds_note hleft.counted (Nat.lt_of_lt_of_le hn hleft.submissions) _ rfl
    exact Or.inr ⟨request, rfl, hleft.trans hn hanswered⟩

/-- What the query of a submission yields, and the events that it leaves. -/
inductive Queried (origin : Origin) : Except Failure PowerState → List Event → Prop
  | unmade {failure : Failure} : Queried origin (.error failure) []
  | failed {look : Request} {outcome : Except Failure String} {failure : Failure}
      (get : look.method = "GET") :
      Queried origin (.error failure) [.sent origin look, .answered origin look outcome]
  | found {look : Request} {body : String} {latest : Hardware} (get : look.method = "GET")
      (described : Describes body latest) :
      Queried origin (.ok (classified latest))
        [.sent origin look, .answered origin look (.ok body)]

/-- A submission that stops after its query was conducted. -/
lemma Queried.conducted {origin : Origin} {outcome : Except Failure PowerState}
    (h : Queried origin outcome events) (target : PowerState) :
    Conducted target origin events := by
  cases h with
  | unmade => exact .unasked
  | failed get => exact .looked get
  | found get described => exact .looked get

lemma proceeds_observe (hh : (counting setup).Hosts (fun _ => True) setup hook) (h : Counted s)
    (hn : number < s.submissions) (attempt : Int) (attempt? : Option Int) :
    let r := (observe setup hook (.submission number attempt) attempt?).run s
    ∃ events, Proceeds setup number events s r.2 ∧
      Queried (.submission number attempt) r.1 events := by
  dsimp only
  rw [run_observe]
  dsimp only
  split
  · rcases hc : (call setup hook (.submission number attempt) _ "GET" _ Json.null).run s with
      ⟨outcome, t⟩
    have hcall := proceeds_call hh h hn attempt s.order.hardware.client "GET"
      s.order.hardware.hardware.uri .null
    dsimp only at hcall
    rw [hc] at hcall
    rcases hcall with ⟨failure, hr⟩ | ⟨look, hlook, hproceeds⟩
    · cases hr
      exact ⟨[], proceeds_of_step h hn (Law.Step.refl _ _), .unmade⟩
    · have hget : look.method = "GET" := (Client.of_request_eq_ok hlook).1
      cases outcome with
      | error failure => exact ⟨_, hproceeds, .failed hget⟩
      | ok body =>
        let found := Client.readHardware setup.strict s.order.hardware.hardware.uri body
        have hread := hproceeds.meanwhile hn ((counting_remarks setup).step_logged found.records t)
        dsimp only
        cases hf : (Client.readHardware setup.strict s.order.hardware.hardware.uri
          body).outcome with
        | error failure => exact ⟨_, hread, .failed hget⟩
        | ok latest =>
          have hnoted := (hread.meanwhile hn
            ((counting_remarks setup).step_logged latest.classify.records _)).meanwhile hn
            (u := (logged latest.classify.records (logged found.records t)).onOrder
              (·.noteHardware attempt? ⟨latest, s.order.hardware.client⟩ (classified latest)))
            (counting_still rfl rfl)
          exact ⟨_, hnoted, .found hget (describes_of_readHardware hf)⟩
  · have hforgot : (counting setup).Step s (s.onOrder ({ · with observed := .unknown })) :=
      counting_still rfl rfl
    exact ⟨[], proceeds_of_step h hn (hforgot.trans ((counting_remarks setup).step_logged _ _)),
      .unmade⟩

/-- A request for a change is one, with the target as its text. -/
lemma proceeds_requestChange (hh : (counting setup).Hosts (fun _ => True) setup hook)
    (h : Counted s) (hn : number < s.submissions) (attempt : Int) (target : PowerState) :
    let origin := Origin.submission number attempt
    let t := ((requestChange setup hook origin target attempt).run s).2
    Proceeds setup number [] s t ∨ ∃ change outcome, change.method = "PUT" ∧
      change.data = some (changeText target) ∧
      Proceeds setup number [.sent origin change, .answered origin change outcome] s t := by
  have hdecides : (counting setup).Decides attempt :=
    ⟨fun _ _ => counting_still rfl rfl, fun _ _ => counting_still rfl rfl⟩
  dsimp only
  rw [run_requestChange_eq_readChange]
  dsimp only
  let begun := s.note (.logged (announcement target s.order.hardware.hardware))
  have hbegun := proceeds_of_step h hn ((counting_remarks setup).step_log s
    (announcement target s.order.hardware.hardware))
  cases s.order.hardware.hardware.powerUri with
  | error failure => exact Or.inl hbegun
  | ok uri =>
    dsimp only
    have hcall := proceeds_call hh hbegun.counted (Nat.lt_of_lt_of_le hn hbegun.submissions)
      attempt s.order.hardware.client "PUT" (.text uri) (changeBody target)
    have hread := Law.step_readChange (counting_remarks setup) hdecides setup.strict uri
    dsimp only at hcall
    rcases hc : (call setup hook (.submission number attempt) _ "PUT" _ (changeBody target)).run
      begun with ⟨outcome, t⟩
    rw [hc] at hcall
    rcases hcall with ⟨failure, hr⟩ | ⟨change, hchange, hproceeds⟩
    · cases hr
      exact Or.inl (hbegun.meanwhile hn (hread _ _))
    · have hdata : change.data = some (changeText target) := by
        rw [data_of_request_eq_ok hchange (fun h => nomatch h), encode_changeBody]
      exact Or.inr ⟨change, outcome, (Client.of_request_eq_ok hchange).1, hdata,
        (hbegun.trans hn hproceeds).meanwhile hn (hread _ _)⟩

/-- A whole submission, once its number was taken, leaves the traces of its own target. -/
lemma proceeds_submit (hh : (counting setup).Hosts (fun _ => True) setup hook) (h : Counted s)
    (target : PowerState) (attempt? : Option Int) :
    ∃ events, Conducted target (.submission s.submissions (attempt?.getD s.order.attempt)) events ∧
      Proceeds setup s.submissions events { s with submissions := s.submissions + 1 }
        ((submit setup hook target attempt?).run s).2 := by
  let begun : Scene := { s with submissions := s.submissions + 1 }
  let attempt := attempt?.getD s.order.attempt
  have hn : s.submissions < begun.submissions := Nat.lt_succ_self _
  have hbegun : Counted begun :=
    ⟨fun n hs => h.fresh n (Nat.le_of_succ_le hs), h.owned⟩
  obtain ⟨events, hproceeds, hqueried⟩ := proceeds_observe hh hbegun hn attempt (some attempt)
  rw [run_submit]
  dsimp only
  rcases ho : (observe setup hook (.submission s.submissions attempt) (some attempt)).run begun with
    ⟨outcome, t⟩
  rw [ho] at hproceeds hqueried
  have hlogged : ∀ (t : Scene) (r : Record) (f : PowerOrder → PowerOrder),
      (counting setup).Step t ((t.note (.logged r)).onOrder f) :=
    fun t r f => ((counting_remarks setup).step_log t r).trans (counting_still rfl rfl)
  have hlooked := hqueried.conducted target
  cases outcome with
  | error failure =>
    refine ⟨events, hlooked, ?_⟩
    dsimp only
    split
    · exact hproceeds.meanwhile hn (hlogged _ _ _)
    · exact hproceeds
  | ok state =>
    dsimp only
    split
    · exact ⟨events, hlooked, hproceeds.meanwhile hn (hlogged _ _ _)⟩
    · rename_i hne
      rcases proceeds_requestChange hh hproceeds.counted
        (Nat.lt_of_lt_of_le hn hproceeds.submissions) attempt target with
        hnone | ⟨change, outcome, hput, hdata, hchanged⟩
      · have hall := hproceeds.trans hn hnone
        rw [List.append_nil] at hall
        exact ⟨events, hlooked, hall⟩
      · cases hqueried with
        | found get described =>
          exact ⟨_, .changed get described hne hput hdata, hproceeds.trans hn hchanged⟩

/-- So a submission obeys the law: its traces are made, and those of earlier ones stay. -/
lemma counting_submit (hh : (counting setup).Hosts (fun _ => True) setup (hookAt setup depth))
    (target : PowerState) (attempt? : Option Int) (s : Scene) :
    (counting setup).Step s ((submit setup (hookAt setup depth) target attempt?).run s).2 := by
  intro h
  obtain ⟨events, hconducted, hproceeds⟩ := proceeds_submit hh h target attempt?
  have htraces := hproceeds.traces.trans
    (congrArg (· ++ events) (h.fresh s.submissions (Nat.le_refl _)))
  refine ⟨hproceeds.counted, Nat.le_of_succ_le hproceeds.submissions, hproceeds.journal,
    fun n hn => hproceeds.others n (Nat.lt_succ_of_lt hn) (Nat.ne_of_lt hn), fun n hn hn' => ?_⟩
  rcases Nat.eq_or_lt_of_le hn with rfl | hn
  · refine ⟨depth, target, attempt?, s, rfl, h.fresh _ (Nat.le_refl _), List.suffix_rfl, rfl, ?_⟩
    rw [htraces]
    exact hconducted
  · exact hproceeds.made n hn hn'

lemma counting_stage (hh : (counting setup).Hosts (fun _ => True) setup (hookAt setup depth)) :
    (counting setup).Stage (fun _ => True) (fun _ => True) setup depth := by
  have hparts : (counting setup).Parts (fun _ => True) setup (hookAt setup depth) := by
    refine Law.parts_of_carries (fun origin ho => counting_carries hh ho)
      (fun s origin delay ho => ?_) (fun s origin client uri request ho _ hr => ?_)
      (fun s target attempt? => counting_submit hh target attempt? s)
      (fun s failure? attempt? => counting_still rfl rfl)
    · exact counting_note (submissionOf?_of_watches ho rfl) (fun _ _ h => nomatch h)
    · refine counting_note (submissionOf?_of_watches ho rfl) (fun origin' request' h => ?_)
      cases h
      rw [(Client.of_request_eq_ok hr).1]
      decide
  exact ⟨hh, hparts, hparts.step_afterDue (fun _ _ _ _ => trivial)
    (fun _ _ _ _ => counting_still rfl rfl)⟩

lemma counting_launches (setup : Setup) : (counting setup).Launches where
  begun _ := counting_still rfl rfl
  entered _ _ := counting_still rfl rfl
  queued _ _ _ := counting_still rfl rfl

theorem counting_reigns (setup : Setup) :
    (counting setup).Reigns (fun _ => True) (fun _ => True) setup where
  stage _ hh := counting_stage hh
  bears s action _ := by
    cases action with
    | markDone _ attempt? => exact fun failure? => counting_still rfl rfl
    | submit _ _ => exact fun _ => trivial
    | wait _ | observe _ | refresh _ | execute _ | look => trivial
    | _ => exact counting_still rfl rfl
  handed s _ := ((counting_launches setup).begun s).trans
    (counting_note rfl (fun _ _ h => nomatch h))
  executes _ target hh _ := (counting_stage hh).keeps_execute (counting_launches setup) target

/-- A submission that something was noted for since some scene was conducted since then. -/
lemma conducted_of_mem (hs : Counted s) (h : (counting setup).Step s t) {new : List Entry}
    (hj : t.journal = new ++ s.journal) {e : Entry} (he : e ∈ new)
    (hn : submissionOf? e.event = some number) :
    ∃ target origin, Conducted target origin (traces number t.journal) := by
  obtain ⟨hcounted, hcounts⟩ := h hs
  have hmem : e.event ∈ traces number new := mem_traces he hn
  have hsplit : traces number t.journal = traces number s.journal ++ traces number new := by
    rw [hj, traces_append]
  have hbegun : s.submissions ≤ number := by
    by_contra hlt
    rw [hcounts.traces number (Nat.lt_of_not_le hlt)] at hsplit
    rw [List.self_eq_append_right.mp hsplit] at hmem
    cases hmem
  have hended : number < t.submissions := by
    by_contra hge
    rw [hcounted.fresh number (Nat.le_of_not_lt hge)] at hsplit
    rw [(List.append_eq_nil_iff.mp hsplit.symm).2] at hmem
    cases hmem
  obtain ⟨_, target, _, _, hmade⟩ := hcounts.made number hbegun hended
  exact ⟨target, _, hmade.conducted⟩

end Steps

/-- In every scene that a script reaches the submissions are counted. -/
theorem counted_of_mem_play (script : Script) (setup : Setup) {s : Scene} (hs : Counted s)
    (steps : List Action) : ∀ r ∈ script.play setup s steps, Counted r.2 :=
  fun r hr => ((counting_reigns setup).step_of_mem_play (fun _ _ _ => trivial) script
    (fun _ _ => trivial) s r hr hs).1

/-- In a run of any steps, with any actions of others during them, only submissions ask for changes,
each at most once. A submission that was begun does nothing but look at the hardware and then, if
that was in another state than its target, ask for the change to this very target. -/
theorem made_of_mem_play (script : Script) (setup : Setup) (order : PowerOrder)
    (steps : List Action) :
    ∀ r ∈ script.play setup (script.scene order) steps,
      (∀ e ∈ r.2.journal, ∀ origin request, e.event = .sent origin request →
        request.method = "PUT" →
        ∃ number < r.2.submissions, ∃ attempt, origin = .submission number attempt) ∧
      ∀ number < r.2.submissions, Made setup number r.2.journal ∧
        (traces number r.2.journal).countP asksForChange ≤ 1 := by
  intro r hr
  have hbegun : Counted (script.scene order) := ⟨fun _ _ => rfl, fun e he => nomatch he⟩
  obtain ⟨hcounted, hcounts⟩ := (counting_reigns setup).step_of_mem_play (fun _ _ _ => trivial)
    script (fun _ _ => trivial) _ r hr hbegun
  refine ⟨fun e he origin request hs hput => ?_, fun number hn => ?_⟩
  · obtain ⟨number, attempt, rfl⟩ := hcounted.owned e he origin request hs hput
    refine ⟨number, ?_, attempt, rfl⟩
    -- A submission to come has no traces, and this event is one.
    by_contra hn
    have htrace : e.event ∈ traces number r.2.journal :=
      mem_traces he (by simp [submissionOf?, originOf?, hs])
    rw [hcounted.fresh number (Nat.le_of_not_lt hn)] at htrace
    cases htrace
  · have hmade := hcounts.made number (Nat.zero_le _) hn
    exact ⟨hmade, hmade.countP_le_one⟩

/-- The blade is on. While the query of a submission for off is in flight, someone else submits for
on, which finds nothing to do. -/
def crossed : Script where
  supply := .queue
    [{ during := [.submit .on none],
       content := .reply 200 "OK" "\x7b\"uri\": \"/b\", \"powerState\": \"On\"\x7d" },
      { content := .reply 200 "OK" "\x7b\"uri\": \"/b\", \"powerState\": \"On\"\x7d" },
      { content := .reply 202 "Accepted" "\x7b\"uri\": \"/t\"\x7d" }]

theorem made_crossed :
    ∃ r ∈ crossed.play calm (crossed.scene blade) [.submit .off none],
      (sentRequests r.2).map (·.method) = ["GET", "GET", "PUT"] ∧
        Made calm 0 r.2.journal ∧ Made calm 1 r.2.journal := by
  let r := (crossed.step calm (.submit .off none)).run (crossed.scene blade)
  have hr : r ∈ crossed.play calm (crossed.scene blade) [.submit .off none] :=
    List.mem_singleton.mpr rfl
  have hsubmissions : r.2.submissions = 2 := by decide +kernel
  obtain ⟨-, hmade⟩ := made_of_mem_play crossed calm blade [.submit .off none] r hr
  refine ⟨r, hr, by decide +kernel, (hmade 0 ?_).1, (hmade 1 ?_).1⟩
  · rw [hsubmissions]
    decide
  · rw [hsubmissions]
    decide

end ServerPower.Proofs
