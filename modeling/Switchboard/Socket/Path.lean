/-!
# Where services are published

A service is published as a socket in a directory, under its name with every slash replaced, so that the name is one component
of the path.
-/

namespace Switchboard

/-- The directory for sockets when no other is given. -/
def defaultServiceDir : String := "/dev/socket/sysshim"

/-- The file name of a service. -/
def socketName (name : String) : String :=
  String.ofList (name.toList.map fun c => if c = '/' then '@' else c)

/-- A file name in a directory; the empty directory is the current one. -/
def joinPath (dir name : String) : String :=
  if dir.isEmpty then name
  else if dir.endsWith "/" then dir ++ name
  else dir ++ "/" ++ name

/-- The socket of a service in a directory. -/
def socketPath (dir name : String) : String :=
  joinPath dir (socketName name)

end Switchboard
