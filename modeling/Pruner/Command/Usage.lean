import Pruner.Text.Basic

namespace Pruner.Command

def program : Text := "autoflake".toList

def version : Text := program ++ " 1.2a0\n".toList

def usageLines : List String := [
  "usage: autoflake [-h] [-i] [-r] [--exclude globs] [--imports IMPORTS]",
  "                 [--expand-star-imports] [--remove-all-unused-imports]",
  "                 [--remove-duplicate-keys] [--remove-unused-variables]",
  "                 [--version]",
  "                 files [files ...]"]

def helpLines : List String := [
  "",
  "Removes unused imports and unused variables as reported by pyflakes.",
  "",
  "positional arguments:",
  "  files                 files to format",
  "",
  "options:",
  "  -h, --help            show this help message and exit",
  "  -i, --in-place        make changes to files instead of printing diffs",
  "  -r, --recursive       drill down directories recursively",
  "  --exclude globs       exclude file/directory names that match these comma-",
  "                        separated globs",
  "  --imports IMPORTS     by default, only unused standard library imports are",
  "                        removed; specify a comma-separated list of additional",
  "                        modules/packages",
  "  --expand-star-imports",
  "                        expand wildcard star imports with undefined names;",
  "                        this only triggers if there is only one star import in",
  "                        the file; this is skipped if there are any uses of",
  "                        `__all__` or `del` in the file",
  "  --remove-all-unused-imports",
  "                        remove all unused imports (not just those from the",
  "                        standard library)",
  "  --remove-duplicate-keys",
  "                        remove all duplicate keys in objects",
  "  --remove-unused-variables",
  "                        remove unused variables",
  "  --version             show program's version number and exit"]

def withLineFeeds (lines : List String) : Text :=
  lines.flatMap fun line => line.toList ++ ['\n']

def usage : Text := withLineFeeds usageLines

def help : Text := usage ++ withLineFeeds helpLines

end Pruner.Command
