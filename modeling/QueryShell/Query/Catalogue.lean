import QueryShell.Query.Helper

namespace QueryShell.Query

def unary (name function key parameter : String) : Helper :=
  ⟨name, function, [parameter], [], false, .fields [⟨key, .argument 0⟩]⟩

def nullary (name function key : String) : Helper :=
  ⟨name, function, [], [], false, .fields [⟨key, .null⟩]⟩

def ofMany (name function key : String) : Helper :=
  ⟨name, function, [], [], true, .fields [⟨key, .rest⟩]⟩

def inScope (name function key : String) : Helper :=
  ⟨name, function, ["name"], ["scope"], false,
    .fields [⟨key, .argument 0⟩, ⟨"scope", .argument 1⟩]⟩

def listing (name function key : String) : Helper :=
  ⟨name, function, [], ["scope"], false, .fields [⟨key, .argumentOrNull 0⟩]⟩

def catalogue : List Helper :=
  [unary "Abort" "abort" "abort" "msg",
    unary "Abs" "abs_" "abs" "number",
    ofMany "Add" "add" "add",
    ofMany "And" "and_" "and",
    ⟨"Append", "append", ["elements", "collection"], [], false,
      .fields [⟨"append", .argument 0⟩, ⟨"collection", .argument 1⟩]⟩,
    ⟨"At", "at", ["timestamp", "expr"], [], false,
      .fields [⟨"at", .argument 0⟩, ⟨"expr", .argument 1⟩]⟩,
    ⟨"Call", "call", ["function"], [], true,
      .fields [⟨"call", .argument 0⟩, ⟨"arguments", .rest⟩]⟩,
    ⟨"Casefold", "casefold", ["string"], ["normalizer"], false,
      .fields [⟨"casefold", .argument 0⟩, ⟨"normalizer", .argument 1⟩]⟩,
    inScope "Collection" "collection" "collection",
    listing "Collections" "collections" "collections",
    ⟨"Concat", "concat", ["strings"], ["separator"], false,
      .fields [⟨"concat", .argument 0⟩, ⟨"separator", .argument 1⟩]⟩,
    ⟨"ContainsPath", "contains_path", ["path", "value"], [], false,
      .fields [⟨"contains_path", .argument 0⟩, ⟨"in", .argument 1⟩]⟩,
    ⟨"ContainsStr", "contains_str", ["string", "search"], [], false,
      .fields [⟨"containsstr", .argument 0⟩, ⟨"search", .argument 1⟩]⟩,
    unary "Count" "count" "count" "collection",
    ⟨"Create", "create", ["collection_ref"], ["params"], false,
      .fields [⟨"create", .argument 0⟩, ⟨"params", .argument 1⟩]⟩,
    unary "CreateCollection" "create_collection" "create_collection" "params",
    unary "CreateDatabase" "create_database" "create_database" "params",
    unary "CreateFunction" "create_function" "create_function" "params",
    unary "CreateIndex" "create_index" "create_index" "params",
    unary "CreateKey" "create_key" "create_key" "params",
    unary "CreateRole" "create_role" "create_role" "params",
    nullary "CurrentIdentity" "current_identity" "current_identity",
    inScope "Database" "database" "database",
    listing "Databases" "databases" "databases",
    unary "Date" "date" "date" "string",
    unary "Delete" "delete" "delete" "ref",
    ofMany "Difference" "difference" "difference",
    unary "Distinct" "distinct" "distinct" "source",
    ofMany "Divide" "divide" "divide",
    ⟨"Do", "do", [], [], true,
      .fields [⟨"do", .restArray⟩]⟩,
    unary "Documents" "documents" "documents" "collection",
    ⟨"Drop", "drop", ["number", "collection"], [], false,
      .fields [⟨"drop", .argument 0⟩, ⟨"collection", .argument 1⟩]⟩,
    ⟨"EndsWith", "ends_with", ["string", "search"], [], false,
      .fields [⟨"endswith", .argument 0⟩, ⟨"search", .argument 1⟩]⟩,
    ⟨"Epoch", "epoch", ["number", "unit"], [], false,
      .fields [⟨"epoch", .argument 0⟩, ⟨"unit", .argument 1⟩]⟩,
    ofMany "Equals" "equals" "equals",
    unary "Events" "events" "events" "ref_set",
    ⟨"Exists", "exists", ["ref"], ["ts"], false,
      .fields [⟨"exists", .argument 0⟩, ⟨"ts", .argument 1⟩]⟩,
    ⟨"Filter", "filter_", ["collection", "lambda_expr"], [], false,
      .fields [⟨"filter", .argument 1⟩, ⟨"collection", .argument 0⟩]⟩,
    ⟨"Foreach", "foreach", ["collection", "lambda_expr"], [], false,
      .fields [⟨"foreach", .argument 1⟩, ⟨"collection", .argument 0⟩]⟩,
    ⟨"Format", "format_", ["fmt"], [], true,
      .fields [⟨"format", .argument 0⟩, ⟨"values", .rest⟩]⟩,
    inScope "Function" "function" "function",
    listing "Functions" "functions" "functions",
    ⟨"Get", "get", ["ref"], ["ts"], false,
      .fields [⟨"get", .argument 0⟩, ⟨"ts", .argument 1⟩]⟩,
    ofMany "GT" "gt" "gt",
    ofMany "GTE" "gte" "gte",
    nullary "HasCurrentIdentity" "has_current_identity" "has_current_identity",
    ⟨"Identify", "identify", ["ref", "password"], [], false,
      .fields [⟨"identify", .argument 0⟩, ⟨"password", .argument 1⟩]⟩,
    ⟨"If", "if_", ["condition", "then", "else_"], [], false,
      .fields [⟨"if", .argument 0⟩, ⟨"then", .argument 1⟩, ⟨"else", .argument 2⟩]⟩,
    inScope "Index" "index" "index",
    listing "Indexes" "indexes" "indexes",
    ofMany "Intersection" "intersection" "intersection",
    unary "IsEmpty" "is_empty" "is_empty" "collection",
    unary "IsNonEmpty" "is_nonempty" "is_nonempty" "collection",
    ⟨"Join", "join", ["source", "target"], [], false,
      .fields [⟨"join", .argument 0⟩, ⟨"with", .argument 1⟩]⟩,
    unary "KeyFromSecret" "key_from_secret" "key_from_secret" "secret",
    listing "Keys" "keys" "keys",
    ⟨"Lambda", "lambda_", ["params", "expr"], [], false,
      .fields [⟨"lambda", .argument 0⟩, ⟨"expr", .argument 1⟩]⟩,
    unary "Length" "length" "length" "string",
    ⟨"Let", "let", ["bindings", "in_expr"], [], false, .bindings⟩,
    ⟨"Login", "login", ["ref", "params"], [], false,
      .fields [⟨"login", .argument 0⟩, ⟨"params", .argument 1⟩]⟩,
    unary "Logout" "logout" "logout" "delete_tokens",
    unary "LowerCase" "lowercase" "lowercase" "string",
    ofMany "LT" "lt" "lt",
    ofMany "LTE" "lte" "lte",
    ⟨"Map", "map_", ["collection", "lambda_expr"], [], false,
      .fields [⟨"map", .argument 1⟩, ⟨"collection", .argument 0⟩]⟩,
    ⟨"Match", "match", ["index"], [], true,
      .fields [⟨"match", .argument 0⟩, ⟨"terms", .restIfAny⟩]⟩,
    ofMany "Max" "max_" "max",
    unary "Mean" "mean" "mean" "collection",
    ⟨"Merge", "merge", ["merge_into", "to_merge"], ["lambda_expr"], false,
      .fields [⟨"merge", .argument 0⟩, ⟨"with", .argument 1⟩, ⟨"lambda", .argument 2⟩]⟩,
    ofMany "Min" "min_" "min",
    ofMany "Modulo" "modulo" "modulo",
    ofMany "Multiply" "multiply" "multiply",
    nullary "NewId" "new_id" "new_id",
    unary "Not" "not_" "not" "boolean",
    nullary "Now" "now" "now",
    ofMany "Or" "or_" "or",
    ⟨"Paginate", "paginate", ["set_expr"], ["opts"], false, .page⟩,
    ⟨"Prepend", "prepend", ["elements", "collection"], [], false,
      .fields [⟨"prepend", .argument 0⟩, ⟨"collection", .argument 1⟩]⟩,
    unary "Query" "query" "query" "lambda_expr",
    ⟨"Ref", "ref", ["collection_ref", "id_"], [], false,
      .fields [⟨"ref", .argument 0⟩, ⟨"id", .argument 1⟩]⟩,
    ⟨"Replace", "replace", ["ref", "params"], [], false,
      .fields [⟨"replace", .argument 0⟩, ⟨"params", .argument 1⟩]⟩,
    unary "Reverse" "reverse" "reverse" "source",
    inScope "Role" "role" "role",
    listing "Roles" "roles" "roles",
    ⟨"Select", "select", ["path", "from_"], ["default"], false,
      .fields [⟨"select", .argument 0⟩, ⟨"from", .argument 1⟩, ⟨"default", .argument 2⟩]⟩,
    unary "Singleton" "singleton" "singleton" "ref",
    ⟨"StartsWith", "starts_with", ["string", "search"], [], false,
      .fields [⟨"startswith", .argument 0⟩, ⟨"search", .argument 1⟩]⟩,
    ofMany "Subtract" "subtract" "subtract",
    unary "Sum" "sum_" "sum" "collection",
    ⟨"Take", "take", ["number", "collection"], [], false,
      .fields [⟨"take", .argument 0⟩, ⟨"collection", .argument 1⟩]⟩,
    unary "Time" "time" "time" "string",
    unary "ToArray" "to_array" "to_array" "value",
    unary "ToNumber" "to_number" "to_number" "value",
    unary "ToObject" "to_object" "to_object" "value",
    unary "ToString" "to_string" "to_string" "value",
    listing "Tokens" "tokens" "tokens",
    unary "Trim" "trim" "trim" "string",
    ofMany "Union" "union" "union",
    ⟨"Update", "update", ["ref", "params"], [], false,
      .fields [⟨"update", .argument 0⟩, ⟨"params", .argument 1⟩]⟩,
    unary "UpperCase" "uppercase" "uppercase" "string",
    unary "Var" "var" "var" "name"]

end QueryShell.Query
