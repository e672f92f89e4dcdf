import Overseer.Host.FileSystem

/-!
# A usual host

The directories, devices and programs that are found on every host, and the directory in which
everything is tried out.
-/

namespace Overseer.Layout

/-- Usual directories. -/
def directories : List String := [
  "bin", "boot", "dev", "dev/shm", "etc", "home", "lib", "lib64", "media", "mnt", "opt", "proc",
  "root", "run", "sbin", "srv", "sys", "tmp", "usr", "usr/bin", "usr/include", "usr/lib",
  "usr/local", "usr/local/bin", "usr/local/lib", "usr/sbin", "usr/share", "var", "var/cache",
  "var/lib", "var/log", "var/run", "var/tmp"]

/-- Usual devices. -/
def devices : List String := ["dev/full", "dev/null", "dev/random", "dev/tty", "dev/urandom",
  "dev/zero"]

/-- Usual files. -/
def files : List String := ["etc/group", "etc/hostname", "etc/hosts", "etc/passwd",
  "etc/resolv.conf"]

/-- Usual programs, which are found in two directories. -/
def programs : List String := ["bash", "cat", "chmod", "cp", "date", "dash", "echo", "env", "expr",
  "false", "grep", "head", "kill", "ls", "mkdir", "mv", "printf", "ps", "pwd", "rm", "sed", "seq",
  "sh", "sleep", "sort", "tail", "tee", "test", "touch", "tr", "true", "uname", "wc", "which",
  "yes"]

/-- The names of a path. -/
def place (path : String) : Place := path.splitOn "/"

/-- The file system of a usual host. -/
def fileSystem : FileSystem :=
  ⟨directories.map (fun path => (place path, .directory)) ++
    devices.map (fun path => (place path, .device)) ++
    files.map (fun path => (place path, .file .empty)) ++
    programs.map (fun name => (["bin", name], .program)) ++
    programs.map (fun name => (["usr", "bin", name], .program))⟩

/-- The directory in which everything is tried out. -/
def workplace : Place := ["tmp", "workplace"]

end Overseer.Layout
