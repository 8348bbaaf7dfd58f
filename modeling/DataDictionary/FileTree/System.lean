import DataDictionary.PathName

/-!
# Directories of the system

Directories that are there whether or not files are put into them, and names by which some of them
go besides their own.
-/

namespace DataDictionary.FileTree

/-- The directory where paths start that do not start at the root. What is above it is not known. -/
def workingDirectory : List String := ["proc", "self", "cwd"]

/-- Directories that every system has. -/
def systemDirectories : List (List String) := [
  [], workingDirectory, ["boot"], ["dev"], ["dev", "pts"], ["dev", "shm"], ["etc"], ["home"],
  ["media"], ["mnt"], ["opt"], ["proc"], ["proc", "bus"], ["proc", "driver"], ["proc", "fs"],
  ["proc", "irq"], ["proc", "self"], ["proc", "self", "attr"], ["proc", "self", "fd"],
  ["proc", "self", "fdinfo"], ["proc", "self", "map_files"], ["proc", "self", "net"],
  ["proc", "self", "ns"], ["proc", "self", "task"], ["proc", "sys"], ["proc", "sys", "fs"],
  ["proc", "sys", "kernel"], ["proc", "sys", "net"], ["proc", "sys", "vm"], ["proc", "tty"],
  ["root"], ["run"], ["srv"], ["sys"], ["sys", "block"], ["sys", "bus"], ["sys", "class"],
  ["sys", "dev"], ["sys", "devices"], ["sys", "fs"], ["sys", "kernel"], ["sys", "module"], ["tmp"],
  ["usr"], ["usr", "bin"], ["usr", "games"], ["usr", "include"], ["usr", "lib"], ["usr", "lib64"],
  ["usr", "local"], ["usr", "local", "bin"], ["usr", "local", "etc"], ["usr", "local", "games"],
  ["usr", "local", "include"], ["usr", "local", "lib"], ["usr", "local", "sbin"],
  ["usr", "local", "share"], ["usr", "local", "src"], ["usr", "sbin"], ["usr", "share"],
  ["usr", "src"], ["var"], ["var", "cache"], ["var", "lib"], ["var", "local"], ["var", "log"],
  ["var", "mail"], ["var", "opt"], ["var", "spool"], ["var", "tmp"]]

/-- Other names of directories, and the directories. -/
def links : List (List String × List String) := [
  (["bin"], ["usr", "bin"]), (["dev", "fd"], ["proc", "self", "fd"]), (["lib"], ["usr", "lib"]),
  (["lib64"], ["usr", "lib64"]), (["proc", "net"], ["proc", "self", "net"]),
  (["proc", "self", "root"], []), (["proc", "thread-self"], ["proc", "self"]),
  (["sbin"], ["usr", "sbin"]), (["var", "run"], ["run"])]

/-- Directories in which nothing can be made, the working directory apart. -/
def fixedDirectories : List (List String) := [["proc"], ["sys"]]

def isFixed (place : List String) : Bool :=
  fixedDirectories.any (·.isPrefixOf place) && !workingDirectory.isPrefixOf place

end DataDictionary.FileTree
