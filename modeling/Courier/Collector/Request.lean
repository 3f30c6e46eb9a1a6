import Courier.Collector.Address
import Courier.Config.Basic
import Courier.Event
/-!
Requests to the collector.

A batch is posted as one JSON object, with the key in a header.  A request is not made at all when
its address or one of its headers has no valid form.
-/
namespace Courier.Collector

/-- How the collector is asked. -/
structure Client where
  /-- The address to which batches are posted. -/
  url : String
  key : String
  /-- Further headers, each name once. -/
  headers : List (String × String) := []
  deriving DecidableEq, Repr, Inhabited

/-- One request. -/
structure Request where
  address : Address
  /-- Names in lower case with their values; a name may stand there more than once. -/
  headers : List (String × String)
  body : String
  deriving DecidableEq, Repr, Inhabited

/-- Why a request is not made. -/
inductive Malformed where
  | address
  | header
  /-- The address belongs to another protocol. -/
  | scheme (address : Address)
  deriving DecidableEq, Repr, Inhabited

def Malformed.message : Malformed → String
  | .address | .header => "builder error"
  | .scheme given => s!"builder error for url ({given.text})"

namespace Client

/-- The client for the collector at a base address. -/
def ofBase (base key : String) : Client := ⟨Config.trimSlashes base ++ "/events", key, []⟩

/-- The client that settings ask for; there has to be a key. -/
def ofConfig (config : Config) : Except Failure Client :=
  match config.apiKey with
  | some key => .ok (ofBase config.baseUrl key)
  | none => .error (.ofTransport (.setup "missing API key"))

/-- The client with one more header; one of the same name is replaced. -/
def withHeader (client : Client) (name value : String) : Client :=
  { client with
    headers := client.headers.filter (fun header => header.1 != name) ++ [(name, value)] }

end Client

def isNameChar (c : Char) : Bool :=
  c.isAlphanum || "!#$%&'*+-.^_\x60|~".toList.contains c

/-- A header name: not empty, and made of the characters of a name. -/
def isHeaderName (name : String) : Bool :=
  !name.isEmpty && name.toList.all isNameChar && decide (name.length < 0x10000)

/-- A header value: no control characters but tabs. -/
def isHeaderValue (value : String) : Bool :=
  value.toList.all fun c => c = '\t' || (31 < c.toNat && c.toNat ≠ 127)

/-- The headers that every request has, in the order in which they are set. -/
def standardHeaders (key : String) : List (String × String) :=
  [("authorization", s!"Bearer {key}"), ("content-type", "application/json")]

def agent : String := "margindash-rust/0.1.0"

/-- All headers of a request.  The agent is named unless another header does so. -/
def allHeaders (client : Client) : List (String × String) :=
  let custom := client.headers.map fun (name, value) => (name.map Char.toLower, value)
  let headers := standardHeaders client.key ++ custom
  if custom.any fun header => header.1 == "user-agent" then headers
  else headers ++ [("user-agent", agent)]

def batchBody (batch : List Event) : String :=
  (Json.ofMembers [("events", .array (batch.map Event.toJson))]).compact

def Client.request (client : Client) (batch : List Event) : Except Malformed Request :=
  match Address.parse? client.url with
  | none => .error .address
  | some address =>
    let standard := (standardHeaders client.key).all fun header => isHeaderValue header.2
    let custom := client.headers.all fun (name, value) => isHeaderName name && isHeaderValue value
    if !address.hasHost then .error (.scheme address)
    else if !(standard && custom) then .error .header
    else if !address.isWeb then .error (.scheme address)
    else .ok ⟨address, allHeaders client, batchBody batch⟩

end Courier.Collector
