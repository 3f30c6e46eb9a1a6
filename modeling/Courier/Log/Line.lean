import Courier.Json.Printer
import Courier.Log
/-!
Log records as lines of text.
-/
namespace Courier.Log

def Value.toJson : Value → Json
  | .text s => .string s
  | .number n => .integer n

namespace Record

def jsonLine (record : Record) (time source : String) : String :=
  let fields := record.fields.map fun (name, value) => (name, value.toJson)
  (Json.ofMembers [
    ("timestamp", .string time),
    ("level", .string record.level.name),
    ("fields", Json.ofMembers (("message", .string record.message) :: fields)),
    ("target", .string source)]).compact

/-- A record for human readers. -/
def prettyLine (record : Record) (time source : String) : String :=
  let pairs := record.fields.map fun (name, value) => s!" {name}={value.shown}"
  s!"{time} {record.level.name} {source}: {record.message}{String.join pairs}"

end Record

end Courier.Log
