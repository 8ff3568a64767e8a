import Standoff.Text.Basic

/-! Paths: names with slashes between them. -/

namespace Standoff

namespace Path

/-- A path without the extension of its last name. A name that begins with dots
has none there. -/
def stem (path : Text) : Text :=
  let name := (path.reverse.takeWhile (· ≠ '/')).reverse
  let leadingDots := name.takeWhile (· = '.')
  let rest := name.dropWhile (· = '.')
  if '.' ∈ rest then
    let extension := '.' :: (rest.reverse.takeWhile (· ≠ '.')).reverse
    path.take (path.length - extension.length)
  else
    path.take (path.length - name.length) ++ leadingDots ++ rest

example : stem "a.b/doc.v1.txt".toList = "a.b/doc.v1".toList ∧
    stem "d/.txt".toList = "d/.txt".toList := by decide

def directory (path : Text) : Text :=
  let before := Text.dropEndWhile (· ≠ '/') path
  if before.all (· = '/') then before else Text.dropEndWhile (· = '/') before

example : directory "a//b".toList = "a".toList ∧ directory "b/".toList = "b".toList ∧
    directory "/b".toList = "/".toList ∧ directory "b".toList = [] := by decide

def join (directory name : Text) : Text :=
  if name.head? = some '/' then name
  else if directory = [] || directory.getLast? = some '/' then directory ++ name
  else directory ++ '/' :: name

example : join "bin/".toList "tool".toList = "bin/tool".toList := by decide

end Path

end Standoff
