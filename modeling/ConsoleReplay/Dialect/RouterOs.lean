import ConsoleReplay.Dialect.Basic

/-!
# The RouterOS dialect

The vocabulary of the command line of MikroTik RouterOS.

## Main definitions

* `Dialect.routerOs` — the categories, verbs and commands of RouterOS.
-/

namespace ConsoleReplay

/-- The vocabulary of RouterOS. -/
def Dialect.routerOs : Dialect :=
  Dialect.named "routeros"
    |>.withCategory "system" "print"
      ["resource", "identity", "clock", "reboot", "shutdown", "package", "routerboard", "license",
       "scheduler", "script", "logging", "backup", "history", "ntp", "note", "health",
       "reset-configuration", "upgrade"]
    |>.withCategory "interface" "print"
      ["print", "ethernet", "bridge", "vlan", "wireless", "wifi", "list", "bonding",
       "pppoe-client", "l2tp-client", "sstp-client", "ovpn-client", "wireguard", "eoip", "gre",
       "monitor-traffic", "enable", "disable", "set", "add", "remove", "reset-counters"]
    |>.withCategory "ip" "address"
      ["address", "route", "firewall", "dhcp-client", "dhcp-server", "dns", "pool", "arp",
       "neighbor", "service", "settings", "hotspot", "ipsec", "proxy", "socks", "cloud", "upnp",
       "traffic-flow"]
    |>.withCategory "ipv6" "address"
      ["address", "route", "firewall", "nd", "neighbor", "dhcp-client", "dhcp-server", "settings"]
    |>.withCategory "routing" "print"
      ["ospf", "bgp", "rip", "filter", "table", "rule", "id", "route"]
    |>.withCategory "tool" "print"
      ["ping", "traceroute", "bandwidth-test", "torch", "sniffer", "netwatch", "fetch", "e-mail",
       "mac-server", "romon", "profile", "graphing", "speed-test"]
    |>.withCategory "user" "print"
      ["print", "add", "remove", "set", "group", "active", "ssh-keys"]
    |>.withCategory "queue" "simple"
      ["simple", "tree", "type", "interface"]
    |>.withCategory "ppp" "secret"
      ["secret", "profile", "active", "aaa"]
    |>.withCategory "certificate" "print"
      ["print", "import", "sign", "add", "remove", "export-certificate"]
    |>.withCategory "file" "print"
      ["print", "remove", "set"]
    |>.withCategory "log" "print"
      ["print", "info", "warning", "error", "debug"]
    |>.withCategory "snmp" "print"
      ["community", "set", "print"]
    |>.withCategory "radius" "print"
      ["add", "remove", "set", "print", "incoming"]
    |>.withCategory "mpls" "print"
      ["ldp", "interface", "settings"]
    |>.withCategory "caps-man" "print"
      ["interface", "configuration", "provisioning", "manager"]
    |>.withCategory "container" "print"
      ["config", "envs", "mounts", "add", "start", "stop"]
    |>.withCategory "disk" "print"
      ["print", "format-drive", "eject-drive"]
    |>.withCategory "port" "print"
      ["print", "set", "remote-access"]
    |>.withStandalone
      ["export", "import", "quit", "redo", "undo", "ping", "traceroute", "beep", "delay", "put",
       "execute", "find", "global", "local", "set", "print", "setup", "password"]

end ConsoleReplay
