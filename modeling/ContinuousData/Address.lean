/-! Network addresses and their text. -/
namespace ContinuousData

structure Ipv4 where
  value : UInt32
  deriving DecidableEq, Repr

namespace Ipv4

def unspecified : Ipv4 := ⟨0⟩

/-- The four numbers of an address, separated by points. -/
def text (ip : Ipv4) : String :=
  let n := ip.value.toNat
  s!"{n / 16777216}.{n / 65536 % 256}.{n / 256 % 256}.{n % 256}"

/-- A number from 0 to 255 without leading zeros. -/
private def octet? (cs : List Char) : Option Nat := do
  guard (cs ≠ [] && cs.length ≤ 3 && cs.all Char.isDigit && (cs.head? ≠ some '0' || cs.length = 1))
  let n := cs.foldl (fun value c => value * 10 + (c.toNat - 48)) 0
  guard (n ≤ 255)
  return n

def ofText? (text : String) : Option Ipv4 :=
  match (text.splitOn ".").map (octet? ·.toList) with
  | [some a, some b, some c, some d] =>
    some ⟨UInt32.ofNat (((a * 256 + b) * 256 + c) * 256 + d)⟩
  | _ => none

end Ipv4

/-- Where a data consumer listens. Only addresses of version 4 fit into a frame; of others the text
is kept. -/
inductive SocketAddress where
  | v4 (ip : Ipv4) (port : UInt16)
  | v6 (text : String)
  deriving DecidableEq, Repr

namespace SocketAddress

def text : SocketAddress → String
  | v4 ip port => ip.text ++ s!":{port}"
  | v6 text => text

/-- An address of version 4 with a port; any other text is taken for one of version 6. -/
def ofText (text : String) : SocketAddress :=
  match text.splitOn ":" with
  | [ip, port] =>
    match Ipv4.ofText? ip, port.toNat? with
    | some ip, some port => v4 ip (UInt16.ofNat port)
    | _, _ => v6 text
  | _ => v6 text

/-- The port stands last in a text. -/
def port : SocketAddress → UInt16
  | v4 _ port => port
  | v6 text => UInt16.ofNat (((text.splitOn ":").getLast?.bind String.toNat?).getD 0)

def isV4 : SocketAddress → Bool
  | v4 .. => true
  | v6 _ => false

end SocketAddress

end ContinuousData
