import SelfTrace.Text.Utf8

/-!
# Fingerprints of texts

A number of 64 bits that stands for a list of texts: each octet is mixed in by an exclusive or and a
multiplication, and every text is closed by an octet that occurs in none. Different lists can have
the same fingerprint.
-/

namespace SelfTrace.Metrics

/-- The fingerprint of nothing. -/
def emptyPrint : UInt64 := 0xcbf29ce484222325

/-- Mixes in an octet. -/
def mix (h : UInt64) (b : UInt8) : UInt64 := (h ^^^ b.toUInt64) * 0x100000001b3

/-- Mixes in a text and its end. -/
def mixText (h : UInt64) (s : String) : UInt64 := mix ((Text.octets s).foldl mix h) 0xFF

/-- The fingerprint of a list of texts. -/
def fingerprint (texts : List String) : UInt64 := texts.foldl mixText emptyPrint

end SelfTrace.Metrics
