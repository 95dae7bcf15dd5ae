import NodeDiagnostics.Text.Blank
import NodeDiagnostics.Text.Numeral

namespace NodeDiagnostics.Host

/-- Major and minor number of a release such as `5.15.0-1057-azure`. -/
def kernelVersion? (release : String) : Option (UInt32 × UInt32) := do
  match (Text.trim release.toList).splitOn '.' with
  | major :: minor :: _ =>
    let major ← Text.unsigned? 10 UInt32.size (Text.trim major)
    let minor ← Text.unsigned? 10 UInt32.size (minor.takeWhile Char.isDigit)
    some (major.toUInt32, minor.toUInt32)
  | _ => none

example : kernelVersion? "5.15.0-1057-azure\n" = some (5, 15) := by decide +kernel

end NodeDiagnostics.Host
