/-!
# Joining paths

A path below a directory. An absolute path stands for itself; otherwise one slash comes between the two, unless the directory
is empty or ends in a slash already.
-/

namespace ShieldedPool.Path

/-- A path below a directory (`join` of `PathBuf`). -/
def join (directory path : String) : String :=
  if path.startsWith "/" then path
  else if directory.isEmpty || directory.endsWith "/" then directory ++ path
  else directory ++ "/" ++ path

end ShieldedPool.Path
