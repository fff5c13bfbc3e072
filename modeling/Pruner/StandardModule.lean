import Pruner.Text.Basic

namespace Pruner.StandardModule

/-- The packages in the directories of the standard library, as release 3.11.6 of the interpreter is
installed on Linux. Other releases have other packages. -/
def packages : List String :=
  ["abc", "aifc", "antigravity", "argparse", "ast", "asynchat", "asyncio", "asyncore", "base64",
    "bdb", "bisect", "bz2", "cProfile", "calendar", "cgi", "cgitb", "chunk", "cmd", "code",
    "codecs", "codeop", "collections", "colorsys", "compileall", "concurrent", "configparser",
    "contextlib", "contextvars", "copy", "copyreg", "crypt", "csv", "ctypes", "curses",
    "dataclasses", "datetime", "dbm", "decimal", "difflib", "dis", "distutils", "doctest",
    "email", "encodings", "ensurepip", "enum", "filecmp", "fileinput", "fnmatch", "fractions",
    "ftplib", "functools", "genericpath", "getopt", "getpass", "gettext", "glob", "graphlib",
    "gzip", "hashlib", "heapq", "hmac", "html", "http", "idlelib", "imaplib", "imghdr", "imp",
    "importlib", "inspect", "io", "ipaddress", "json", "keyword", "lib2to3", "linecache",
    "locale", "logging", "lzma", "mailbox", "mailcap", "mimetypes", "modulefinder",
    "multiprocessing", "netrc", "nntplib", "ntpath", "nturl2path", "numbers", "opcode",
    "operator", "optparse", "os", "pathlib", "pdb", "pickle", "pickletools", "pipes", "pkgutil",
    "platform", "plistlib", "poplib", "posixpath", "pprint", "profile", "pstats", "pty",
    "py_compile", "pyclbr", "pydoc", "pydoc_data", "queue", "quopri", "random", "re", "reprlib",
    "rlcompleter", "runpy", "sched", "secrets", "selectors", "shelve", "shlex", "shutil",
    "signal", "site", "smtpd", "smtplib", "sndhdr", "socket", "socketserver", "sqlite3",
    "sre_compile", "sre_constants", "sre_parse", "ssl", "stat", "statistics", "string",
    "stringprep", "struct", "subprocess", "sunau", "symtable", "sysconfig", "tabnanny",
    "tarfile", "telnetlib", "tempfile", "textwrap", "this", "threading", "timeit", "tkinter",
    "token", "tokenize", "tomllib", "trace", "traceback", "tracemalloc", "tty", "turtle",
    "turtledemo", "types", "typing", "unittest", "urllib", "uu", "uuid", "venv", "warnings",
    "wave", "weakref", "webbrowser", "wsgiref", "xdrlib", "xml", "xmlrpc", "zipapp", "zipfile",
    "zipimport", "zoneinfo"]

def withEffects : List String :=
  ["antigravity", "rlcompleter", "this"]

def builtIn : List String :=
  ["datetime", "grp", "io", "json", "math", "multiprocessing", "parser", "pwd", "string",
    "operator", "os", "sys", "time"]

def removable : List Text :=
  ((packages.filter (!withEffects.contains ·)) ++ builtIn).eraseDups.map String.toList

end Pruner.StandardModule
