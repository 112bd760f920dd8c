import JobQuery.Cli.Run

/-!
# The query program's entry point

The program itself is `Cli.runProgram`, a function of the machine and the command line. This
module is the thin layer around it: it reads from the real machine what a run depends on,
runs the program, then prints what the run printed and writes the files it created.

What is read:

* the environment, in the order the process received it (from `/proc/self/environ`; where
  that cannot be read, the variables the program reads by name);
* the working directory;
* the configuration files the command line may load (every candidate place is tried);
* which certificate files hold a root certificate: the file `SSL_CERT_FILE` names, the usual
  bundle files inside the directory `SSL_CERT_DIR` names, and the system's bundles;
* for `query --output FILE`: whether the file and the directory meant to hold it are
  directories.

`/dev/full` is the device that takes no byte.
-/

namespace JobQuery.Cli.Host

/-- The text of a file, when it can be read. -/
def readText? (path : String) : IO (Option String) := do
  let .ok text ← EIO.toBaseIO (IO.FS.readFile path) | return none
  return some text

/-- Whether a path names a directory: it opens, and reading it says it is a directory. -/
def isDirectory (path : String) : IO Bool := do
  let .ok h ← EIO.toBaseIO (IO.FS.Handle.mk path .read) | return false
  match ← EIO.toBaseIO (h.read 1) with
  | .error (.inappropriateType _ 21 _) => return true
  | _ => return false

/-- One `NAME=value` entry of the environment. -/
def splitEntry (entry : String) : Option (String × String) :=
  match entry.splitOn "=" with
  | name :: rest => if name.isEmpty then none else some (name, "=".intercalate rest)
  | [] => none

/-- The variables the program reads by name. -/
def knownVariables : List String := ["RUST_LOG", "SSL_CERT_FILE", "SSL_CERT_DIR"]

/-- The process's environment, in order. -/
def environment : IO (List (String × String)) := do
  match ← EIO.toBaseIO (IO.FS.readBinFile "/proc/self/environ") with
  | .ok bytes =>
    let text := (String.fromUTF8? bytes).getD ""
    return (text.splitOn (String.singleton (Char.ofNat 0))).filterMap splitEntry
  | .error _ =>
    knownVariables.filterMapM fun name => do
      return (← IO.getEnv name).map fun v => (name, v)

/-- The line a PEM file holding a certificate has. -/
def certificateMarker : String := "-----BEGIN CERTIFICATE-----"

/-- How many certificates a file holds. -/
def certificateCount (path : String) : IO Nat := do
  return match ← readText? path with
    | some t => (t.splitOn certificateMarker).length - 1
    | none => 0

/-- The usual names of a bundle of root certificates inside a certificate directory. -/
def bundleNames : List String := ["ca-certificates.crt", "ca-bundle.crt", "cert.pem"]

/-- The system's usual bundles of root certificates. -/
def systemBundles : List String :=
  ["/etc/ssl/certs/ca-certificates.crt", "/etc/pki/tls/certs/ca-bundle.crt",
   "/etc/ssl/cert.pem", "/etc/ssl/ca-bundle.pem"]

/-- The machine the program runs on, for a command line. -/
def machine (args : List String) : IO Machine := do
  let vars ← environment
  let cwd := (← IO.currentDir).toString
  let m : Machine := { vars, cwd, fullDevices := ["/dev/full"] }
  let cl := match readCommandLine args with
    | .ok cl => some cl
    | .error _ => none
  let candidates := ((cl.bind (·.config)).map m.configCandidates).getD []
  let files ← candidates.filterMapM fun p => do
    return (← readText? p).map fun t => (p, t)
  let certFiles := (m.var? "SSL_CERT_FILE").toList.map m.absolute ++
    ((m.var? "SSL_CERT_DIR").toList.map m.absolute).flatMap fun d =>
      bundleNames.map (joinPath d)
  let certificates ← certFiles.filterMapM fun f => do
    let n ← certificateCount f
    return if n > 0 then some (f, n) else none
  let systemCounts ← systemBundles.mapM certificateCount
  let systemRoots := (systemCounts.find? (· > 0)).getD 0
  let output := match cl.map (·.invocation) with
    | some (.query _ (some p) _) => [m.absolute p, parentDir (m.absolute p)]
    | _ => []
  let dirs ← output.filterM isDirectory
  return { m with files, certificates, systemRoots, dirs }

end JobQuery.Cli.Host

/-- Run the query program: print its output and log, write the files it created, and exit
with its code. -/
def main (args : List String) : IO UInt32 := do
  let outcome := JobQuery.Cli.runProgram (← JobQuery.Cli.Host.machine args) args
  IO.print outcome.stdout
  IO.eprint outcome.stderr
  outcome.created.forM fun (path, chunks) => IO.FS.writeFile path (String.join chunks)
  return outcome.exit.toUInt32
