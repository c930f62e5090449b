import ModuleClosure.Closure
import ModuleClosure.CommandLine.Request
import ModuleClosure.Description.Json
import ModuleClosure.Json.Writer
import ModuleClosure.Source.Clones

/-!
# Reports

The lines that commands write for a reader.
-/
namespace ModuleClosure.CommandLine

def repeated (c : Char) (length : Nat) : String := String.ofList (List.replicate length c)

def doubleRule : String := repeated '═' 39

def singleRule : String := repeated '─' 40

def versionNumber : String := "0.1.0"

/-- A text with blanks behind it up to a number of characters. -/
def padRight (width : Nat) (s : String) : String := s ++ repeated ' ' (width - s.length)

def orNone (names : NameSet) : String :=
  if names.isEmpty then "(无)" else " ".intercalate names.toList

def optionalLine (label : String) : Option String → List String
  | none => []
  | some s => [label ++ s]

def descriptionLines (d : Description) : List String :=
  ["  模块:       " ++ d.name] ++ optionalLine "  版本:       " d.version ++
    optionalLine "  维护者:     " d.maintainer ++
    ["  依赖:       " ++ orNone d.depends, "  建议:       " ++ orNone d.suggests] ++
    d.bounds.toList.map fun e => "  约束:       " ++ e.1 ++ " " ++ e.2.text

def closureLines (r : ClosureReport) : List String :=
  descriptionLines r.module ++ ["  获取次数:   " ++ toString r.requested.length]

/-- A report with the time it was made at. -/
def closureJson (r : ClosureReport) (time : String) : Json :=
  .object [("module", r.module.toJson), ("fetched", .texts r.requested),
    ("resolved_at", .text time)]

/-- The address book in force, with a mark at the names for which there is a hint. -/
def bookLines (s : Settings) : List String :=
  let book := (Source.Clones.ofSettings s (.ofText "")).book
  let line (e : String × String) : String :=
    "  " ++ padRight 20 e.1 ++ " " ++ e.2 ++
      (if s.hints.contains e.1 then " (有地址提示)" else "")
  ["", "仓库注册表 (" ++ toString book.size ++ " 个)", doubleRule] ++ book.toList.map line ++
    [doubleRule, ""]

def yesNo (b : Bool) : String := if b then "是" else "否"

/-- Settings, where `temporary` is the directory that stands in for a work directory. -/
def settingsLines (temporary : String) (s : Settings) : List String :=
  ["配置内容:", singleRule, "  [获取配置]",
    "    工作目录:       " ++ s.fetch.workdir.getD (temporary ++ " (系统临时目录)"),
    "    git 程序:       " ++ s.fetch.program,
    "    超时:           " ++
      (match s.fetch.timeoutSeconds with
        | some seconds => toString seconds ++ " 秒"
        | none => "不限"),
    "",
    "  [日志配置]",
    "    日志级别:       " ++ s.logging.level,
    "    文件输出:       " ++ yesNo s.logging.toFile,
    "    JSON 格式:      " ++ yesNo s.logging.json,
    "",
    "  [仓库]",
    "    追加仓库:       " ++ toString s.repositories.size,
    "    地址提示:       " ++ toString s.hints.size,
    "",
    "  [其他]",
    "    开发模式:       " ++ yesNo s.development,
    singleRule]

/-- The version with the machine and the system it runs on. -/
def versionLines (architecture system : String) : List String :=
  ["", "Dune Modules - 模块依赖解析", doubleRule,
    "  版本:             " ++ versionNumber,
    "  描述文件:         " ++ Source.fileName,
    "",
    "构建信息:",
    "  目标平台:         " ++ architecture,
    "  操作系统:         " ++ system,
    doubleRule, ""]

def usageLines : List String :=
  ["Usage: " ++ programName ++ " [OPTIONS] <COMMAND>", "", "Commands:"] ++
    (CommandName.all.map fun name => "  " ++ name.word) ++ ["  " ++ helpWord]

def failureLine (f : Failure) : String := "错误 [" ++ f.code ++ "]: " ++ f.message

end ModuleClosure.CommandLine
