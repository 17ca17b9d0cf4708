import Skywalking.Header
import Skywalking.Core.Context
import Skywalking.Machine.Run

/-!
What the `sw8` header of an exit span says about the call it is sent with.

The format names the address that is called, the endpoint of the caller and, on the side
of the reader, the type of the reference.

* `ContextCall`, `TracingContext.call`: the trait `Context` as a machine.
* `toReference_of_exitSpan`: what the header of an exit span names in their place.
* `header_never_describes`: **no header describes its call**.
-/

namespace Skywalking

open RustStd Machine

/-! ### The trait `Context` -/

/-- A call of the trait `Context` that changes the context. -/
inductive ContextCall where
  | createEntrySpan (operationName : String) (parentSpanId : Option Int32) (layer : SpanLayer)
  | createExitSpan (operationName : String) (parentSpanId : Option Int32) (peer : String)
      (layer : SpanLayer) (injector : Bool)
  | createLocalSpan (operationName : String) (parentSpanId : Option Int32) (layer : SpanLayer)
  | finishSpan (span : TracingSpan) (now : SystemTime)
  | changeTraceId (id : ID)
  deriving DecidableEq, Repr

namespace TracingContext

/-- The context after a call. -/
def call (b64 : Base64) (context : TracingContext) : ContextCall → Option TracingContext
  | .createEntrySpan operationName parentSpanId layer =>
      match context.createEntrySpan operationName parentSpanId layer none with
      | .ok (_, context) => some context
      | .error _ => none
  | .createExitSpan operationName parentSpanId peer layer injector =>
      let (_, _, context) :=
        context.createExitSpan b64 operationName parentSpanId peer layer injector
      some context
  | .createLocalSpan operationName parentSpanId layer =>
      let (_, context) := context.createLocalSpan operationName parentSpanId layer
      some context
  | .finishSpan span now => some (context.finishSpan span now)
  | .changeTraceId id => some (context.changeTraceId id)

/-- No call changes the address of the collector or learns the endpoint of the scope. -/
lemma call_keeps {b64 : Base64} {context context' : TracingContext} {e : ContextCall}
    (h : context.call b64 e = some context') :
    context'.addrClient = context.addrClient
      ∧ context'.entryEndpointName = context.entryEndpointName := by
  cases e <;> (obtain rfl := Option.some.inj h; exact ⟨rfl, rfl⟩)

lemma keeps_of_run {b64 : Base64} {context context' : TracingContext} {es : List ContextCall}
    (hrun : run (call b64) context es = some context') :
    context'.addrClient = context.addrClient
      ∧ context'.entryEndpointName = context.entryEndpointName := by
  refine run_invariant (P := fun c => c.addrClient = context.addrClient
    ∧ c.entryEndpointName = context.entryEndpointName) ?_ ⟨rfl, rfl⟩ hrun
  rintro c e c' ⟨haddr, hendpoint⟩ hs
  obtain ⟨haddr', hendpoint'⟩ := call_keeps hs
  exact ⟨haddr'.trans haddr, hendpoint'.trans hendpoint⟩

/-- A new context holds the address it was given, and knows no endpoint. -/
lemma fields_of_new {id : Int32} {service serviceInst addrClient : String}
    {traceDraw segmentDraw : IdDraw} {context : TracingContext}
    (hnew : new (some id) service serviceInst addrClient traceDraw segmentDraw
      = .ok (some context)) :
    context.addrClient = addrClient ∧ context.entryEndpointName = none := by
  rw [new] at hnew
  cases htrace : IDGenerator.newId id traceDraw with
  | error e => rw [htrace] at hnew; cases hnew
  | ok traceId =>
      cases hsegment : IDGenerator.newId id segmentDraw with
      | error e => rw [htrace, hsegment] at hnew; cases hnew
      | ok segmentId =>
          rw [htrace, hsegment] at hnew
          cases hnew
          exact ⟨rfl, rfl⟩

end TracingContext

/-! ### The meaning of a header -/

/-- The code of the type of a reference in the protocol. -/
def SegmentRefType.code : SegmentRefType → Int32
  | .crossProcess => RefType.crossProcess.code
  | .crossThread => RefType.crossThread.code

/-- What is read from a header describes the call it was sent with: the address `peer`
that was called, the endpoint `endpoint` that called it, and the type of the reference. -/
structure SegmentReference.Describes (r : SegmentReference) (refType : SegmentRefType)
    (peer endpoint : String) : Prop where
  target : r.networkAddressUsedAtPeer = peer
  parentEndpoint : r.parentEndpoint = endpoint
  refType : r.refType = refType.code

section Meaning

variable {b64 : Base64} {id : Int32} {service serviceInst addrClient : String}
  {traceDraw segmentDraw : IdDraw} {context₀ context : TracingContext}
  {es es' : List ContextCall}

lemma parentEndpoint_forAcrossProcess (context : TracingContext) (exitSpan : TracingSpan)
    (peer : String) :
    (SegmentRef.forAcrossProcess context exitSpan peer).parentEndpoint
      = context.entryEndpointName := by
  cases h : context.entryEndpointName <;> rw [SegmentRef.forAcrossProcess, h]

/-- What is read from the header of an exit span names the address of the collector, an
unknown endpoint unless the context knows one, and the type `1`. -/
lemma toReference_of_exitSpan (hb : b64.Lawful) {operationName peer : String}
    {parentSpanId : Option Int32} {layer : SpanLayer} {injection : Injection}
    {r : SegmentReference}
    (hinjection : (context.createExitSpan b64 operationName parentSpanId peer layer true).2.1
      = some injection)
    (hr : SegmentReference.fromText b64 injection.value = some r) :
    r.networkAddressUsedAtPeer = context.addrClient
      ∧ r.parentEndpoint = context.entryEndpointName.getD "Unknown" ∧ r.refType = 1 := by
  rw [TracingContext.createExitSpan] at hinjection
  obtain rfl := Option.some.inj hinjection
  rw [eq_toReference_of_fromText hb hr]
  refine ⟨rfl, ?_, rfl⟩
  rw [SegmentRef.toReference, parentEndpoint_forAcrossProcess]
  rfl

/-- **No header describes its call**: after any calls on a context, among them the
creation of an entry span `endpoint`, what is read from the header of an exit span does
not have the type of a reference across processes. Its address is that of the collector,
and its endpoint `Unknown`, so these two are right by coincidence at most. -/
theorem header_never_describes (hb : b64.Lawful)
    (hnew : TracingContext.new (some id) service serviceInst addrClient traceDraw segmentDraw
      = .ok (some context₀))
    {endpoint : String} {entryParent : Option Int32} {entryLayer : SpanLayer}
    (hrun : run (TracingContext.call b64) context₀
      (es ++ .createEntrySpan endpoint entryParent entryLayer :: es') = some context)
    {operationName peer : String} {parentSpanId : Option Int32} {layer : SpanLayer}
    {injection : Injection}
    (hinjection : (context.createExitSpan b64 operationName parentSpanId peer layer true).2.1
      = some injection) :
    (¬ ∃ r, SegmentReference.fromText b64 injection.value = some r
        ∧ r.Describes .crossProcess peer endpoint)
      ∧ ∀ r, SegmentReference.fromText b64 injection.value = some r →
        (r.networkAddressUsedAtPeer = peer ↔ addrClient = peer)
          ∧ (r.parentEndpoint = endpoint ↔ "Unknown" = endpoint) := by
  obtain ⟨haddr₀, hendpoint₀⟩ := TracingContext.fields_of_new hnew
  obtain ⟨haddr, hendpoint⟩ := TracingContext.keeps_of_run hrun
  constructor
  · rintro ⟨r, hr, hdescribes⟩
    obtain ⟨-, -, htype⟩ := toReference_of_exitSpan hb hinjection hr
    have hcode := hdescribes.refType
    rw [htype] at hcode
    exact absurd hcode (by decide)
  · intro r hr
    obtain ⟨htarget, hparent, -⟩ := toReference_of_exitSpan hb hinjection hr
    rw [htarget, hparent, haddr, haddr₀, hendpoint, hendpoint₀]
    exact ⟨Iff.rfl, Iff.rfl⟩

end Meaning

/-! ### A call under an entry span -/

/-- An exit span under an entry span, and what is read from its header. -/
lemma exists_call (b64 : Base64) (hb : b64.Lawful) : ∃ context injection r,
    run (TracingContext.call b64) .demo ([] ++ .createEntrySpan "/orders" none .http :: [])
        = some context
      ∧ (context.createExitSpan b64 "store" (some 0) "10.0.0.2:80" .rpc true).2.1
        = some injection
      ∧ SegmentReference.fromText b64 injection.value = some r := by
  obtain ⟨context, ref, hrun, hinjection, hid⟩ : ∃ context ref,
      run (TracingContext.call b64) .demo ([] ++ .createEntrySpan "/orders" none .http :: [])
          = some context
        ∧ (context.createExitSpan b64 "store" (some 0) "10.0.0.2:80" .rpc true).2.1
          = some ⟨"sw8", SegmentRef.serialize b64 ref⟩
        ∧ ref.spanId = -1 + 1 + 1 := ⟨_, _, rfl, rfl, rfl⟩
  exact ⟨context, _, _, hrun, hinjection, fromText_serialize hb (by rw [hid]; decide)⟩

theorem header_never_describes_demo : ∃ context injection r,
    run (TracingContext.call .standard) .demo
        ([] ++ .createEntrySpan "/orders" none .http :: []) = some context
      ∧ (context.createExitSpan .standard "store" (some 0) "10.0.0.2:80" .rpc true).2.1
        = some injection
      ∧ SegmentReference.fromText .standard injection.value = some r
      ∧ ¬ r.Describes .crossProcess "10.0.0.2:80" "/orders" := by
  obtain ⟨context, injection, r, hrun, hinjection, hr⟩ :=
    exists_call .standard Base64.standard_lawful
  have hnever := header_never_describes Base64.standard_lawful TracingContext.new_demo hrun
    hinjection
  exact ⟨context, injection, r, hrun, hinjection, hr, fun h => hnever.1 ⟨r, hr, h⟩⟩

/-- The header of this call names the collector as the address, an unknown endpoint and
the type of a reference across threads. -/
theorem header_misdescribes : ∃ context injection r,
    run (TracingContext.call .standard) .demo
        ([] ++ .createEntrySpan "/orders" none .http :: []) = some context
      ∧ (context.createExitSpan .standard "store" (some 0) "10.0.0.2:80" .rpc true).2.1
        = some injection
      ∧ SegmentReference.fromText .standard injection.value = some r
      ∧ r.networkAddressUsedAtPeer ≠ "10.0.0.2:80" ∧ r.parentEndpoint ≠ "/orders"
      ∧ r.refType ≠ SegmentRefType.crossProcess.code := by
  obtain ⟨context, injection, r, hrun, hinjection, hr⟩ :=
    exists_call .standard Base64.standard_lawful
  obtain ⟨haddr, hendpoint⟩ := TracingContext.keeps_of_run hrun
  obtain ⟨htarget, hparent, htype⟩ :=
    toReference_of_exitSpan Base64.standard_lawful hinjection hr
  refine ⟨context, injection, r, hrun, hinjection, hr, ?_, ?_, ?_⟩
  · rw [htarget, haddr]
    decide
  · rw [hparent, hendpoint]
    decide
  · rw [htype]
    decide

end Skywalking
