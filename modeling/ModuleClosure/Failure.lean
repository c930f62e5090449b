import ModuleClosure.Description.Line
import ModuleClosure.Duration
import ModuleClosure.Git
import ModuleClosure.Logging.Directive
import ModuleClosure.Parameters.Line
import ModuleClosure.Parameters.Value

/-!
# Failures

Everything that can go wrong, by cause. A failure has a code and a message; the message is put
together from the cause and nothing else.
-/
namespace ModuleClosure

/-- Why a description, or a hint, is not valid. -/
inductive Invalidity
  | blankName
  | noName
  | hintWithoutAddress (hint : String)
  | hintWithoutName (hint : String)
  | stated (text : String)
deriving DecidableEq, Repr

/-- Why a description could not be fetched. -/
inductive FetchFault
  | notStarted (program : String) (fault : FileFault)
  | ended (command : String) (ending : Git.Ending) (errors : String)
  | stated (text : String)
deriving DecidableEq, Repr

/-- Why a parameter could not be used. -/
inductive ParameterFault
  | unreadable (key raw : String) (fault : Parameters.ReadFault)
  | stated (text : String)
deriving DecidableEq, Repr

/-- Why logging could not be started. -/
inductive StartFault
  | alreadyStarted
  | level (text : String) (fault : Logging.DirectiveFault)
  | directive (text : String) (fault : Logging.DirectiveFault)
  | stated (text : String)
deriving DecidableEq, Repr

/-- A data format that settings and descriptions are read from. -/
inductive DataFormat
  | json
  | yaml
deriving DecidableEq, Repr

inductive Failure
  | invalid (fault : Invalidity)
  | descriptionLine (number : Nat) (fault : Description.LineFault)
  | noAddress (name : String)
  | fetch (name : String) (fault : FetchFault)
  | timeout (name : String) (limit : Duration)
  | cycle (path : List String)
  | parameter (fault : ParameterFault)
  | parameterLine (number : Nat) (fault : Parameters.LineFault)
  | files (fault : FileFault)
  | malformed (format : DataFormat)
  | version (fault : Version.Fault)
  | internal (text : String)
  | start (fault : StartFault)
deriving DecidableEq, Repr

def Invalidity.message : Invalidity → String
  | blankName => "模块名不能为空"
  | noName => "描述文件缺少 Module 字段"
  | hintWithoutAddress hint => "地址提示格式应为 name=url: '" ++ hint ++ "'"
  | hintWithoutName hint => "地址提示缺少模块名: '" ++ hint ++ "'"
  | stated text => text

def FetchFault.message : FetchFault → String
  | notStarted program fault => "无法执行 '" ++ program ++ "': " ++ fault.message
  | ended command ending errors => "git " ++ command ++ " 失败 (" ++ ending.text ++ "): " ++ errors
  | stated text => text

def ParameterFault.message : ParameterFault → String
  | unreadable key raw fault => "参数 '" ++ key ++ "' 的值 '" ++ raw ++ "' 无效: " ++ fault.message
  | stated text => text

def StartFault.message : StartFault → String
  | alreadyStarted => "日志系统已初始化，不能重复初始化"
  | level text fault => "无效的日志级别 '" ++ text ++ "': " ++ fault.message
  | directive text fault => "无效的过滤指令 '" ++ text ++ "': " ++ fault.message
  | stated text => text

namespace Failure

/-- The names of a cycle with arrows between them. -/
def cycleText (path : List String) : String := " -> ".intercalate path

def message : Failure → String
  | invalid fault => "校验失败: " ++ fault.message
  | descriptionLine number fault =>
    "描述文件解析失败 (第 " ++ toString number ++ " 行): " ++ fault.message
  | noAddress name => "找不到模块 '" ++ name ++ "' 的仓库地址"
  | fetch name fault => "拉取模块失败: '" ++ name ++ "' - " ++ fault.message
  | timeout name limit => "拉取模块超时: '" ++ name ++ "' 超过 " ++ limit.text
  | cycle path => "检测到循环依赖: " ++ cycleText path
  | parameter fault => "配置加载失败: " ++ fault.message
  | parameterLine number fault =>
    "参数文件解析失败 (第 " ++ toString number ++ " 行): " ++ fault.message
  | files fault => "IO 错误: " ++ fault.message
  | malformed .json => "JSON 错误: " ++ "not the expected document"
  | malformed .yaml => "YAML 错误: " ++ "not the expected document"
  | version fault => "版本解析错误: " ++ fault.message
  | internal text => "内部错误: " ++ text
  | start fault => "初始化失败: " ++ fault.message

def code : Failure → String
  | invalid _ => "DESCRIPTOR-001"
  | descriptionLine _ _ => "DESCRIPTOR-002"
  | noAddress _ => "RESOLVE-001"
  | fetch _ _ => "RESOLVE-002"
  | timeout _ _ => "RESOLVE-003"
  | cycle _ => "RESOLVE-004"
  | parameter _ => "CONFIG-001"
  | malformed _ => "CONFIG-001"
  | parameterLine _ _ => "CONFIG-002"
  | files _ => "IO-001"
  | version _ => "VERSION-001"
  | internal _ => "UNKNOWN"
  | start _ => "UNKNOWN"

end Failure
end ModuleClosure
