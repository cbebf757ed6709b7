import BoardDebug.Build.Tool.Account
import BoardDebug.Build.Tool.Blocks
import BoardDebug.Build.Tool.Checksum
import BoardDebug.Build.Tool.Columns
import BoardDebug.Build.Tool.Content
import BoardDebug.Build.Tool.Copy
import BoardDebug.Build.Tool.Count
import BoardDebug.Build.Tool.Difference
import BoardDebug.Build.Tool.Dump
import BoardDebug.Build.Tool.Edit
import BoardDebug.Build.Tool.Ends
import BoardDebug.Build.Tool.Expression
import BoardDebug.Build.Tool.Join
import BoardDebug.Build.Tool.Link
import BoardDebug.Build.Tool.List
import BoardDebug.Build.Tool.Make
import BoardDebug.Build.Tool.Order
import BoardDebug.Build.Tool.Printf
import BoardDebug.Build.Tool.Remove
import BoardDebug.Build.Tool.Say
import BoardDebug.Build.Tool.Search
import BoardDebug.Build.Tool.Sequence
import BoardDebug.Build.Tool.Split
import BoardDebug.Build.Tool.Status
import BoardDebug.Build.Tool.Test
import BoardDebug.Build.Tool.Translate

namespace BoardDebug.Build.Tool

/-- The programs that only read and write, by name. -/
def all : List (String × (List String → Work Unit)) :=
  [("true", fun _ => return ()), ("false", fun _ => Work.setStatus 1), ("[", test "["),
    ("arch", arch), ("base32", recode base32), ("base64", recode base64), ("basename", basename),
    ("cat", cat), ("chmod", chmod), ("cksum", cksum), ("cmp", cmp), ("comm", comm), ("cp", cp),
    ("cut", cut), ("date", date), ("dd", dd), ("diff", diff), ("dirname", dirname),
    ("echo", echo), ("egrep", fun arguments => grep ("-E" :: arguments)),
    ("expand", retab "expand" withoutTabs), ("expr", expr), ("factor", factor),
    ("fgrep", fun arguments => grep ("-F" :: arguments)), ("fold", fold), ("grep", grep),
    ("groups", groups), ("head", ends "head" '-' false), ("id", identify), ("install", install),
    ("join", join), ("link", link), ("ln", ln), ("logname", logname), ("ls", ls),
    ("mkdir", mkdir), ("mktemp", mktemp), ("mv", mv), ("nl", nl), ("od", od), ("paste", paste),
    ("printf", printf), ("pwd", pwd), ("readlink", readlink), ("realpath", realpath),
    ("rev", rev), ("rm", rm), ("rmdir", rmdir), ("sed", sed), ("seq", seq), ("sleep", sleep),
    ("sort", sort), ("split", split), ("stat", stat), ("sum", sum),
    ("sync", fun _ => return ()), ("tac", tac), ("tail", ends "tail" '+' true), ("tee", tee),
    ("test", test "test"), ("touch", touch), ("tr", tr), ("truncate", truncate), ("tty", tty),
    ("uname", uname), ("unexpand", retab "unexpand" withTabs), ("uniq", uniq),
    ("unlink", unlink), ("wc", wc), ("whoami", whoami), ("yes", yes)] ++
    Checksum.all.map fun checksum => (checksum.tool, checksum.run)

/-- What a program does that has a name. -/
def named? (name : String) : Option (List String → Work Unit) :=
  (all.find? fun (n, _) => n = name).map (·.2)

/-- The programs that write what they have to say only at their end, behind all complaints. -/
def late : List String :=
  ["rev", "sed"]

end BoardDebug.Build.Tool
