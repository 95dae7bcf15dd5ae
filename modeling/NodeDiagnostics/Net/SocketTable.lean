import NodeDiagnostics.Net.Endpoint
import NodeDiagnostics.Text.Blank

/-!
The kernel's table of TCP sockets: a heading, then a row for each socket with its slot, its two
endpoints, its state and further columns. Addresses are words in the byte order of the host, low
byte first, written in hexadecimal; a row that cannot be read is left out.
-/
namespace NodeDiagnostics.Net

structure Socket where
  own : Endpoint
  peer : Endpoint
  state : UInt8
deriving DecidableEq, Repr

namespace Socket

def established : UInt8 := 0x01

def listening : UInt8 := 0x0a

/-- A word of eight hexadecimal digits as its four bytes in memory, the low one first. -/
def wordOctets? (cs : List Char) : Option (List UInt8) :=
  (Text.unsigned? 16 UInt32.size cs).map fun n =>
    [n.toUInt8, (n / 0x100).toUInt8, (n / 0x10000).toUInt8, (n / 0x1000000).toUInt8]

def address? (cs : List Char) : Option Address :=
  if cs.length = 8 then (wordOctets? cs).bind Address.ofOctets?
  else if cs.length = 32 then do
    let a ← wordOctets? (cs.take 8)
    let b ← wordOctets? ((cs.drop 8).take 8)
    let c ← wordOctets? ((cs.drop 16).take 8)
    let d ← wordOctets? (cs.drop 24)
    Address.ofOctets? (a ++ b ++ c ++ d)
  else none

def endpoint? (cs : List Char) : Option Endpoint :=
  match cs.dropWhile (· != ':') with
  | [] => none
  | _ :: port => do
    let port ← Text.unsigned? 16 UInt16.size port
    let address ← address? (cs.takeWhile (· != ':'))
    some ⟨address, port.toUInt16⟩

def ofRow? (row : List Char) : Option Socket :=
  match Text.words row with
  | _ :: own :: peer :: state :: _ => do
    let own ← endpoint? own
    let peer ← endpoint? peer
    let state ← Text.unsigned? 16 UInt8.size state
    some ⟨own, peer, state.toUInt8⟩
  | _ => none

def ofTable (text : String) : List Socket :=
  ((text.toList.splitOn '\n').drop 1).filterMap ofRow?

example : (ofRow? "0: 0501F40A:9C40 0100000A:01BB 01 0".toList).map
    (fun s => (s.own.text, s.peer.text, s.state)) =
    some ("10.244.1.5:40000", "10.0.0.1:443", 1) := by decide +kernel

end Socket
end NodeDiagnostics.Net
