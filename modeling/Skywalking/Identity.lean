import Skywalking.Scope.Linkage

/-!
The two places that tell a backend which service and which instance a process is: the
headers of its exit spans, and the segments its reporter sends.

A header takes both from the configuration in `Reporter.config`, through the context of
the scope, a segment from the configuration that the worker has captured. `Reporter.new`
draws the two independently of each other.

* `injected_of_run`: every header injected in a run is that of a reference made in the
  context of the scope.
* `parent_of_header`: what a header says of the service and the instance.
* `clientUri_of_header`: the address in a header is that of the collector.
* `identity_agrees_iff`: **when the two agree**. The service always does; the instance
  does if it is set in the environment, or if the two draws happen to be the same.
-/

namespace Skywalking

open RustStd Machine

section Header

variable {b64 : Base64} {config : Config} {traceDraw segmentDraw : IdDraw}
  {current : CurrentTracingContext} {s : Scope} {es : List Op}

/-- Every header injected in a run from a scope with a context is that of a reference
made in this context. -/
theorem injected_of_run {s₀ : Scope} {wx₀ : WorkingContext} (live₀ : s₀.Live wx₀)
    (hempty : s₀.injected = []) (hrun : run (Scope.step b64) s₀ es = some s) :
    ∀ p ∈ s.injected, ∃ wx operationName peer layer,
      p.2.value = (WorkingContext.exitRef wx operationName peer layer).serialize b64
        ∧ wx.context.origin = wx₀.context.origin := by
  refine run_induction (P := fun _ t => ∀ p ∈ t.injected, ∃ wx operationName peer layer,
      p.2.value = (WorkingContext.exitRef wx operationName peer layer).serialize b64
        ∧ wx.context.origin = wx₀.context.origin) ?_ ?_ hrun
  · intro p hp
    rw [hempty] at hp
    exact absurd hp List.not_mem_nil
  · intro es t op t' ht ih hs p hp
    cases Scope.step_cases hs with
    | @create _ wx span live new =>
        rcases List.mem_append.mp hp with hp | hp
        · exact ih p hp
        · obtain ⟨injection, hinjection, rfl⟩ := List.mem_map.mp hp
          have horigin := Scope.origin_of_run ht
          rw [Scope.context?_of_live live, Scope.context?_of_live live₀] at horigin
          cases op with
          | tracingExit operationName peer layer injector now =>
              cases injector with
              | false => exact absurd hinjection (by simp [Op.injection])
              | true =>
                  rw [Op.injection, Option.mem_toList] at hinjection
                  obtain rfl := Option.some.inj hinjection
                  exact ⟨wx, operationName, peer, layer, rfl, Option.some.inj horigin⟩
          | _ => exact absurd hinjection (by simp [Op.injection])
    | _ => exact ih p hp

/-- A header names the service and the instance of the configuration of its scope. -/
theorem parent_of_header (hb : b64.Lawful)
    (hnew : CurrentTracingContext.new config traceDraw segmentDraw = .ok current)
    (hrun : run (Scope.step b64) (Scope.enter current) es = some s) {k : ℕ}
    {injection : Injection} (hinjection : (k, injection) ∈ s.injected) {r : SegmentReference}
    (hr : SegmentReference.fromText b64 injection.value = some r) :
    r.parentService = config.serviceName ∧ r.parentServiceInstance = config.serviceInstance := by
  obtain ⟨context, hcontext, rfl⟩ := CurrentTracingContext.eq_of_new hnew
  obtain ⟨wx, operationName, peer, layer, hvalue, horigin⟩ :=
    injected_of_run (Scope.live_enter _) rfl hrun _ hinjection
  rw [hvalue] at hr
  rw [eq_toReference_of_fromText hb hr]
  constructor
  · calc wx.context.service = wx.context.origin.service := rfl
      _ = context.service := by rw [horigin]; rfl
      _ = config.serviceName := hcontext.service
  · calc wx.context.serviceInst = wx.context.origin.serviceInst := rfl
      _ = context.serviceInst := by rw [horigin]; rfl
      _ = config.serviceInstance := hcontext.serviceInst

/-- A header names the collector of the configuration of its scope as the address called. -/
theorem address_of_header (hb : b64.Lawful)
    (hnew : CurrentTracingContext.new config traceDraw segmentDraw = .ok current)
    (hrun : run (Scope.step b64) (Scope.enter current) es = some s) {k : ℕ}
    {injection : Injection} (hinjection : (k, injection) ∈ s.injected) {r : SegmentReference}
    (hr : SegmentReference.fromText b64 injection.value = some r) :
    r.networkAddressUsedAtPeer = config.getAddrClient := by
  obtain ⟨context, hcontext, rfl⟩ := CurrentTracingContext.eq_of_new hnew
  obtain ⟨wx, operationName, peer, layer, hvalue, horigin⟩ :=
    injected_of_run (Scope.live_enter _) rfl hrun _ hinjection
  rw [hvalue] at hr
  rw [eq_toReference_of_fromText hb hr]
  calc wx.context.addrClient = wx.context.origin.addrClient := rfl
    _ = context.addrClient := by rw [horigin]; rfl
    _ = config.getAddrClient := hcontext.addrClient

end Header

/-! ### The two configurations of a reporter -/

/-- Two draws in one environment name the same instance exactly if the environment names
it, or if they drew the same UUID and found the same address. -/
lemma serviceInstance_eq_iff (env : Env) (d₁ d₂ : ConfigDraw) :
    (Config.new env d₁).serviceInstance = (Config.new env d₂).serviceInstance
      ↔ (env skwSerInstKey).isSome
        ∨ (d₁.uuid = d₂.uuid ∧ d₁.currentInstIp = d₂.currentInstIp) := by
  rw [Config.new, Config.new]
  cases henv : env skwSerInstKey with
  | some name => simp
  | none =>
      simp only [Option.getD_none, Option.isSome_none, Bool.false_eq_true, false_or]
      exact instanceText_inj

/-- **The address in a header is the one that the worker sends to**, whatever the environment, the
draws and the peer of the exit span: both configurations take it from the environment alone. -/
theorem clientUri_of_header {b64 : Base64} (hb : b64.Lawful) (env : Env)
    (workerDraw draw : ConfigDraw) {traceDraw segmentDraw : IdDraw}
    {current : CurrentTracingContext}
    (hnew : CurrentTracingContext.new (Reporter.new env workerDraw draw).config traceDraw
      segmentDraw = .ok current)
    {es : List Op} {s : Scope}
    (hrun : run (Scope.step b64) (Scope.enter current) es = some s) {k : ℕ}
    {injection : Injection} (hinjection : (k, injection) ∈ s.injected) {r : SegmentReference}
    (hr : SegmentReference.fromText b64 injection.value = some r) :
    Reporter.clientUri (Reporter.new env workerDraw draw).workerConfig
      = "http://" ++ r.networkAddressUsedAtPeer := by
  rw [address_of_header hb hnew hrun hinjection hr, Reporter.clientUri, Config.getAddrClient]
  simp only [Reporter.new, Config.new, Option.getD_some, String.append_assoc]

/-- **When header and segment agree on the identity of the process**: exactly if the
instance is named in the environment, or if the two configurations of the reporter were
made with the same UUID and the same address. -/
theorem identity_agrees_iff {b64 : Base64} (hb : b64.Lawful) (env : Env)
    (workerDraw draw : ConfigDraw) {traceDraw segmentDraw : IdDraw}
    {current : CurrentTracingContext}
    (hnew : CurrentTracingContext.new (Reporter.new env workerDraw draw).config traceDraw
      segmentDraw = .ok current)
    {es : List Op} {s : Scope}
    (hrun : run (Scope.step b64) (Scope.enter current) es = some s) {k : ℕ}
    {injection : Injection} (hinjection : (k, injection) ∈ s.injected) {r : SegmentReference}
    (hr : SegmentReference.fromText b64 injection.value = some r) (context : TracingContext) :
    (r.parentService = (Reporter.genSegment b64 context
          (Reporter.new env workerDraw draw).workerConfig).service
        ∧ r.parentServiceInstance = (Reporter.genSegment b64 context
          (Reporter.new env workerDraw draw).workerConfig).serviceInstance)
      ↔ (env skwSerInstKey).isSome
        ∨ (workerDraw.uuid = draw.uuid ∧ workerDraw.currentInstIp = draw.currentInstIp) := by
  obtain ⟨hservice, hinst⟩ := parent_of_header hb hnew hrun hinjection hr
  rw [← serviceInstance_eq_iff env workerDraw draw, hservice, hinst]
  constructor
  · rintro ⟨-, h⟩
    exact h.symm
  · intro h
    exact ⟨rfl, h.symm⟩

/-! ### A process whose instance is not named -/

/-- A scope with one exit span, which sends a header along. -/
def demoExit : List Op :=
  [.tracingExit "store" "10.0.0.2:80" .rpc true ⟨0⟩] ++ .finishSpan 0 ⟨0⟩ ⟨0⟩ :: []

/-- The scope runs under every configuration, and its header can be read. -/
lemma exists_header {b64 : Base64} (hb : b64.Lawful) (config : Config) :
    ∃ current s injection r context,
      CurrentTracingContext.new config ⟨1, ⟨10 ^ 9⟩⟩ ⟨2, ⟨10 ^ 9⟩⟩ = .ok current
        ∧ run (Scope.step b64) (Scope.enter current) demoExit = some s
        ∧ (0, injection) ∈ s.injected
        ∧ SegmentReference.fromText b64 injection.value = some r
        ∧ s.reported = [context] := by
  obtain ⟨current, s, ref, hnew, hrun, hinjected, hid⟩ : ∃ current s ref,
      CurrentTracingContext.new config ⟨1, ⟨10 ^ 9⟩⟩ ⟨2, ⟨10 ^ 9⟩⟩ = .ok current
        ∧ run (Scope.step b64) (Scope.enter current) demoExit = some s
        ∧ s.injected = [(0, ⟨"sw8", SegmentRef.serialize b64 ref⟩)]
        ∧ ref.spanId = -1 + 1 := ⟨_, _, _, rfl, rfl, rfl, rfl⟩
  have hmax : s.issued.length ≤ 2 ^ 31 :=
    (Scope.issued_length_le hrun).trans (by change 0 + 2 ≤ 2 ^ 31; norm_num)
  obtain ⟨context, hreported⟩ : ∃ context, s.reported = [context] := by
    obtain ⟨-, -, context, hreported, -⟩ := report_of_run hnew hrun hmax
    exact ⟨context, hreported⟩
  have hr : SegmentReference.fromText b64 (ref.serialize b64) = some ref.toReference :=
    fromText_serialize hb (by rw [hid]; decide)
  have hmem : (0, (⟨"sw8", ref.serialize b64⟩ : Injection)) ∈ s.injected := by
    rw [hinjected]
    exact List.mem_singleton_self _
  exact ⟨current, s, _, _, context, hnew, hrun, hmem, hr, hreported⟩

theorem identity_agrees_demo : ∃ current s injection r context,
    CurrentTracingContext.new (Reporter.new (fun _ => none) (.demo 0) (.demo 0)).config
        ⟨1, ⟨10 ^ 9⟩⟩ ⟨2, ⟨10 ^ 9⟩⟩ = .ok current
      ∧ run (Scope.step .standard) (Scope.enter current) demoExit = some s
      ∧ (0, injection) ∈ s.injected
      ∧ SegmentReference.fromText .standard injection.value = some r
      ∧ s.reported = [context]
      ∧ r.parentServiceInstance = (Reporter.genSegment .standard context
          (Reporter.new (fun _ => none) (.demo 0) (.demo 0)).workerConfig).serviceInstance := by
  obtain ⟨current, s, injection, r, context, hnew, hrun, hinjection, hr, hreported⟩ :=
    exists_header Base64.standard_lawful
      (Reporter.new (fun _ => none) (.demo 0) (.demo 0)).config
  have hagree := identity_agrees_iff Base64.standard_lawful (fun _ => none) (.demo 0) (.demo 0)
    hnew hrun hinjection hr context
  exact ⟨current, s, injection, r, context, hnew, hrun, hinjection, hr, hreported,
    (hagree.mpr (Or.inr ⟨rfl, rfl⟩)).2⟩

/-- A reporter whose two configurations drew different UUIDs: the header of an exit span
and the segment of its scope name two instances. -/
theorem identity_disagrees : ∃ current s injection r context,
    CurrentTracingContext.new (Reporter.new (fun _ => none) (.demo 0) (.demo 1)).config
        ⟨1, ⟨10 ^ 9⟩⟩ ⟨2, ⟨10 ^ 9⟩⟩ = .ok current
      ∧ run (Scope.step .standard) (Scope.enter current) demoExit = some s
      ∧ (0, injection) ∈ s.injected
      ∧ SegmentReference.fromText .standard injection.value = some r
      ∧ s.reported = [context]
      ∧ r.parentServiceInstance ≠ (Reporter.genSegment .standard context
          (Reporter.new (fun _ => none) (.demo 0) (.demo 1)).workerConfig).serviceInstance := by
  obtain ⟨current, s, injection, r, context, hnew, hrun, hinjection, hr, hreported⟩ :=
    exists_header Base64.standard_lawful
      (Reporter.new (fun _ => none) (.demo 0) (.demo 1)).config
  refine ⟨current, s, injection, r, context, hnew, hrun, hinjection, hr, hreported, ?_⟩
  have hinst := (parent_of_header Base64.standard_lawful hnew hrun hinjection hr).2
  intro h
  rw [hinst] at h
  rcases (serviceInstance_eq_iff (fun _ => none) (.demo 1) (.demo 0)).mp h with h | ⟨h, -⟩
  · exact absurd h (by simp)
  · exact absurd (congrArg Uuid.digits h) (by decide)

end Skywalking
