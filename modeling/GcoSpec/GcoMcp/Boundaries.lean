import GcoSpec.Gco.Runtime
import GcoSpec.GcoMcp.Wire

/-!
# The MCP boundaries

Three places where a request crosses: `GovernedClientBoundary` and `GovernedFanout` authorize a
tool call, derive a child for it and attach the child, and `GovernedServerBoundary` decides about
an incoming call. Each is a sequence of calls of the runtime.
-/

namespace GcoMcp

open Python Gco

variable {σ V : Type}

/-- `CLIENT_CAPABILITIES`. -/
def clientCapabilities : String := "io.modelcontextprotocol/clientCapabilities"

/-- `_client_advertised_gco`. -/
def clientAdvertisedGco (requestMeta : Option Meta) : Bool :=
  match requestMeta.bind fun m => (m.get? clientCapabilities).bind PyVal.mapping? with
  | some capabilities => peerSupportsGco (some capabilities)
  | none => false

variable (env : Externals) (rt : GovernanceRuntime σ V) (codec : GcoWireCodec)

/-- The `except WireError` of the boundaries: the denial, or the exception again. -/
def denyWireError (e : Exc) : Py Exc σ (Decision V) :=
  match e.kind with
  | .wireError code => do
      let text ← Py.ofExcept e.str
      pure (denialDecision (.mcp code) text)
  | _ => throw e

/-- `GovernedServerBoundary.authorize_incoming`. -/
def authorizeIncoming (require : Bool) (requestMeta : Option Meta) (toolUri : Arg σ)
    (requestedScope : Option (Arg σ)) : Py Exc σ (Decision V) :=
  if ¬clientAdvertisedGco requestMeta then
    if require then
      pure (denialDecision (.mcp .missingCapability)
        (extensionId ++ " client capability is required"))
    else pure .allow
  else
    match codec.extract env requestMeta with
    | .error e => denyWireError e
    | .ok wire =>
        match wire.parent with
        | some parent => do
            let subcall ← rt.authorizeSubcall (.gco parent) (.gco wire.gco)
            if ¬subcall.allowed then pure subcall
            else rt.authorizeToolCall env (.gco wire.gco) toolUri requestedScope
        | none => rt.authorizeToolCall env (.gco wire.gco) toolUri requestedScope

/-- `GovernedFanout.prepare_subcall`. -/
def prepareSubcall (current : GCO) (toolUri : Arg σ) (requestedScope : Option (Arg σ))
    (delegation : DelegationRequest) (baseMeta : Option Meta) (attachParent : Bool) :
    Py Exc σ (Decision V × Option Meta) := do
  let authorized ← rt.authorizeToolCall env (.gco current) toolUri requestedScope
  if ¬authorized.allowed then pure (authorized, none)
  else do
    let derived ← rt.deriveForSubcall env (.gco current) (.request delegation)
    if ¬derived.allowed then pure (derived, none)
    else match derived.child with
      | none => pure (denialDecision (.text "gco_missing_child")
          "GCO derivation did not return a child", none)
      | some child =>
          match codec.attach env baseMeta child (if attachParent then some current else none) with
          | .ok nextMeta => pure (derived, some nextMeta)
          | .error e => do
              let denied ← denyWireError e
              pure (denied, none)

/-- `GovernedClientBoundary.prepare_tool_call`: a fanout that never attaches the parent. -/
def prepareToolCall (parent : GCO) (toolUri : Arg σ) (requestedScope : Option (Arg σ))
    (delegation : DelegationRequest) (baseMeta : Option Meta) :
    Py Exc σ (Decision V × Option Meta) :=
  prepareSubcall env rt codec parent toolUri requestedScope delegation baseMeta false

end GcoMcp
