import ModuleClosure.Failure

/-!
# Notices

What the library reports while it works, by occasion. A notice has a severity, a message and named
fields.
-/
namespace ModuleClosure

inductive Severity
  | debug
  | info
  | warn
deriving DecidableEq, Repr

def Severity.text : Severity → String
  | debug => "DEBUG"
  | info => "INFO"
  | warn => "WARN"

inductive NoticeField
  | count (n : Nat)
  | text (s : String)
deriving DecidableEq, Repr

inductive Notice
  | closureBegun (module : String) (depends suggests : Nat)
  | closureDone (module : String) (depends suggests : Nat)
  | boundUnmet (module dependency version : String) (bound : Bound)
  | boundUnread (module dependency : String) (fault : Version.Fault)
  | nameRefused (module : String)
  | fetchBegun (module address : String)
  | gitRun (module directory command : String)
  | otherNameDeclared (module declared : String)
  | cloneRemoved (module : String)
  | fileRead (module path : String)
  | addressRegistered (module address : String)
  | parameterOverridden (key old : String)
deriving DecidableEq, Repr

namespace Notice

def severity : Notice → Severity
  | closureDone .. | fetchBegun .. => .info
  | boundUnmet .. | nameRefused .. | otherNameDeclared .. => .warn
  | closureBegun .. | boundUnread .. | gitRun .. | cloneRemoved .. | fileRead ..
  | addressRegistered .. | parameterOverridden .. => .debug

def message : Notice → String
  | closureBegun .. => "开始解析依赖闭包"
  | closureDone .. => "依赖闭包解析完成"
  | boundUnmet .. => "依赖版本不满足约束"
  | boundUnread .. => "无法比较依赖版本"
  | nameRefused .. => "模块名不是合法的路径段"
  | fetchBegun .. => "获取模块描述文件"
  | gitRun .. => "执行 git"
  | otherNameDeclared .. => "描述文件中的模块名与请求的模块名不一致"
  | cloneRemoved .. => "已删除临时克隆"
  | fileRead .. => "读取本地描述文件"
  | addressRegistered .. => "注册仓库地址"
  | parameterOverridden .. => "参数被覆盖"

def fields : Notice → List (String × NoticeField)
  | closureBegun m d s | closureDone m d s =>
    [("module", .text m), ("depends", .count d), ("suggests", .count s)]
  | boundUnmet m d v b =>
    [("module", .text m), ("dependency", .text d), ("version", .text v),
      ("constraint", .text b.text)]
  | boundUnread m d fault =>
    [("module", .text m), ("dependency", .text d),
      ("error", .text (Failure.version fault).message)]
  | nameRefused m => [("module", .text m)]
  | fetchBegun m a => [("module", .text m), ("url", .text a)]
  | gitRun m d c => [("module", .text m), ("cwd", .text d), ("command", .text c)]
  | otherNameDeclared m n => [("module", .text m), ("declared", .text n)]
  | cloneRemoved m => [("module", .text m)]
  | fileRead m p => [("module", .text m), ("path", .text p)]
  | addressRegistered m a => [("module", .text m), ("url", .text a)]
  | parameterOverridden k o => [("key", .text k), ("old", .text o)]

end Notice
end ModuleClosure
