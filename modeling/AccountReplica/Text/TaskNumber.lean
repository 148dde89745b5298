/-! The numbers of tasks differ from run to run, so texts show every one of them as the same sign. -/

namespace AccountReplica.TaskNumber

def word : List Char :=
  ['t', 'a', 's', 'k', ' ']

def readMore (read : Nat) (c : Char) : Nat :=
  if word[read]? = some c then read + 1 else if c = 't' then 1 else 0

/-- `read` characters of the word have just been read; one more than there are stands for digits that
follow it. -/
def maskFrom : Nat → List Char → List Char
  | _, [] => []
  | read, c :: cs =>
    if word.length ≤ read && c.isDigit then
      if read = word.length then '#' :: maskFrom (read + 1) cs else maskFrom read cs
    else c :: maskFrom (readMore read c) cs

def mask (s : String) : String :=
  String.ofList (maskFrom 0 s.toList)

end AccountReplica.TaskNumber
